import BrainHost.Proofs.Message.Size
import BrainHost.Proofs.Module.Held
import BrainHost.Proofs.Script.Capability

/-! # Modules that are set anew

A module is stored once it has run to its end, in place of the one that had its id. So scripts and the host find
under each id what the last one left that went well, and nothing of those that failed. -/

namespace BrainHost

variable {E : Engine} {K : HostKind} {α : Type}

namespace Outcome

variable {σ : Type}

/-- An operation ends in a state, with a result or by a panic. -/
def Leaves (o : Outcome σ α) (v : σ) : Prop := (∃ a, o = .done a v) ∨ o = .fault v

theorem Ends.leaves {P : σ → Prop} {o : Outcome σ α} {v : σ} (h : o.Ends P) (hv : o.Leaves v) : P v := by
  obtain ⟨a, rfl⟩ | rfl := hv
  · exact h
  · exact h

theorem Yields.ends {P : Option α → σ → Prop} {Q : σ → Prop} {o : Outcome σ α} (h : o.Yields P)
    (hQ : ∀ answer v, P answer v → Q v) : o.Ends Q := by
  cases o with
  | done a v => exact hQ _ v h
  | fault v => exact hQ _ v h
  | stuck => trivial

end Outcome

/-! ## One operation -/

/-- A brain is as it was, but for its context. -/
def Stays (number : Nat) (b : Brain E) (v : World E K) : Prop :=
  ∃ context, v.brains[number]? = some { b with context }

/-- The source of a module runs to its end in a brain, and its namespace is what comes of it. -/
def Brain.Evaluates (number : Nat) (id source : String) (link : Link E K) (w : World E K)
    (namespaceObject : E.Value) (v : World E K) : Prop :=
  (Brain.enter number fun b => b.runModule id source).run link w = .done (.ok namespaceObject) v

/-- A module is found under its id in a brain, and under the other ids there is what there was. -/
def Stores (number : Nat) (b : Brain E) (id : String) (m : StoredModule E.Value) (v : World E K) : Prop :=
  ∃ b', v.brains[number]? = some b' ∧
    ∀ other, b'.modules.lookup other = if other = id then some m else b.modules.lookup other

/-- A brain is as it was, but for its context and a module that is stored in it. -/
def Gains (number : Nat) (b : Brain E) (id : String) (m : StoredModule E.Value) (v : World E K) : Prop :=
  ∃ context, v.brains[number]? = some (({ b with context } : Brain E).store id m)

theorem getElem?_modified {brains : Array (Brain E)} {number : Nat} {b : Brain E} (h : brains[number]? = some b)
    (f : Brain E → Brain E) : (brains.modify number f)[number]? = some (f b) := by
  rw [Array.getElem?_modify, if_pos rfl, h, Option.map_some]

theorem Brain.lookup_store (b : Brain E) (id : String) (m : StoredModule E.Value) (other : String) :
    (b.store id m).modules.lookup other = if other = id then some m else b.modules.lookup other :=
  lookup_replace b.modules id m other

theorem Gains.stores {number : Nat} {b : Brain E} {id : String} {m : StoredModule E.Value} {v : World E K}
    (h : Gains number b id m v) : Stores number b id m v := by
  obtain ⟨context, hv⟩ := h
  exact ⟨_, hv, Brain.lookup_store { b with context } id m⟩

section

variable {number : Nat} {link : Link E K} (hl : (held E K number).admits link) {w : World E K} {b : Brain E}
  (hb : w.brains[number]? = some b)
include hl hb

theorem Brain.enter_stays {m : Brain E → Inside E K α} (hm : ∀ b, Inside.Keeps (held E K number) (m b)) :
    ((Brain.enter number m).run link w).Ends (Stays number b) := by
  rw [Brain.enter_apply, hb, Option.bind_some]
  cases hc : b.context with
  | none => exact ⟨none, by rw [hb, ← hc]⟩
  | some c =>
    have lent : (busy number w).brains[number]? = some { b with context := none } := getElem?_modified hb _
    have ran := (Inside.run_ends c).mp (hm b c link hl (busy number w))
    refine ran.settle fun scene kept => ⟨some scene.1, ?_⟩
    exact getElem?_modified (kept _ lent rfl) _

theorem Brain.runUpdate_stays (state : String) (buffer : ByteArray) :
    (Brain.runUpdate number state buffer link w).Ends (Stays number b) := by
  have updates := Brain.enter_stays hl hb fun b =>
    (held.calling.visiting.scripting b.surroundings).updateInside state buffer
  unfold Brain.runUpdate
  rw [Act.bind_apply]
  refine updates.bind (fun r v hv => ?_) fun _ hv => hv
  cases r <;> exact hv

theorem Brain.namespaceJson_stays (id : String) :
    ((Brain.namespaceJson number id).run link w).Ends (Stays number b) :=
  Brain.enter_stays hl hb fun b => (held.calling.visiting.scripting b.surroundings).plain (.namespaceInside b id)

theorem Brain.load_gains (id source : String) :
    ((Brain.load number id source).run link w).Yields fun answer v =>
      (answer = some (.ok ()) →
        ∃ namespaceObject u, Brain.Evaluates number id source link w namespaceObject u ∧
          Gains number b id ⟨namespaceObject, source⟩ v) ∧
      (answer ≠ some (.ok ()) → Stays number b v) := by
  have ran := Brain.enter_stays hl hb fun b =>
    (held.calling.visiting.scripting b.surroundings).plain (.runModule b id source)
  rw [Operation.load_apply]
  cases hrun : (Brain.enter number fun b => b.runModule id source).run link w with
  | done r u =>
    rw [hrun] at ran
    cases r with
    | ok namespaceObject =>
      obtain ⟨context, hu⟩ := ran
      exact ⟨fun _ => ⟨namespaceObject, u, hrun, context, getElem?_modified hu _⟩, fun hne => absurd rfl hne⟩
    | error failure => exact ⟨nofun, fun _ => ran⟩
  | fault u =>
    rw [hrun] at ran
    exact ⟨nofun, fun _ => ran⟩
  | stuck => trivial

theorem Brain.setModule_gains (id source : String) :
    ((Brain.setModule number id source).run link w).Yields fun answer v =>
      (answer = some (.ok ()) → id.utf8ByteSize ≤ Limit.identifier.maxBytes ∧
        ∃ namespaceObject u, Brain.Evaluates number id source link w namespaceObject u ∧
          Gains number b id ⟨namespaceObject, source⟩ v) ∧
      (answer ≠ some (.ok ()) → Stays number b v) := by
  have enters : Attempt.Enters (Brain.setModule number id source) w (do
        insist .identifier id
        insist .scriptSource source)
      (· = Brain.load number id source) :=
    .bind (.insistText _ _) fun _ _ => .last (.insistText _ _) fun _ _ => rfl
  unfold insist at enters
  cases hid : Limit.identifier.check id with
  | error cause =>
    rw [hid] at enters
    obtain ⟨-, journal, hrun⟩ := enters
    rw [hrun]
    exact ⟨nofun, fun _ => ⟨b.context, hb⟩⟩
  | ok u =>
    rw [hid] at enters
    cases hsource : Limit.scriptSource.check source with
    | error cause =>
      rw [hsource] at enters
      obtain ⟨-, journal, hrun⟩ := enters
      rw [hrun]
      exact ⟨nofun, fun _ => ⟨b.context, hb⟩⟩
    | ok u =>
      rw [hsource] at enters
      obtain ⟨_, rfl, hrun⟩ := enters
      rw [hrun]
      exact (Brain.load_gains hl hb id source).mono fun answer v hv =>
        ⟨fun hok => ⟨le_of_check hid, hv.1 hok⟩, hv.2⟩

theorem Brain.setModule_yields (id source : String) :
    ((Brain.setModule number id source).run link w).Yields fun answer v =>
      (answer = some (.ok ()) → id.utf8ByteSize ≤ Limit.identifier.maxBytes ∧
        ∃ namespaceObject u, Brain.Evaluates number id source link w namespaceObject u ∧
          Stores number b id ⟨namespaceObject, source⟩ v) ∧
      (answer ≠ some (.ok ()) → Stays number b v) := by
  refine (Brain.setModule_gains hl hb id source).mono fun answer v hv => ⟨fun hok => ?_, hv.2⟩
  obtain ⟨hid, namespaceObject, u, hruns, gains⟩ := hv.1 hok
  exact ⟨hid, namespaceObject, u, hruns, gains.stores⟩

end

/-! ## Histories -/

/-- What was done with a brain from some state on, and the modules that were set, the latest first. Whatever else
is done meanwhile leaves the brain alone. -/
inductive History (link : Link E K) (number : Nat) (w : World E K) :
    List (String × StoredModule E.Value) → World E K → Prop
  | start : History link number w [] w
  | loaded {loads v u x id source namespaceObject} (h : History link number w loads v)
    (hruns : Brain.Evaluates number id source link v namespaceObject x)
    (hset : (Brain.setModule number id source).run link v = .done (.ok ()) u) :
    History link number w ((id, ⟨namespaceObject, source⟩) :: loads) u
  | failed {loads v u} (id source : String) (h : History link number w loads v)
    (hleaves : ((Brain.setModule number id source).run link v).Leaves u)
    (hfails : (Brain.setModule number id source).run link v ≠ .done (.ok ()) u) : History link number w loads u
  | updated {loads v u state buffer} (h : History link number w loads v)
    (hleaves : (Brain.runUpdate number state buffer link v).Leaves u) : History link number w loads u
  | told {loads v u id} (h : History link number w loads v)
    (hleaves : ((Brain.namespaceJson number id).run link v).Leaves u) : History link number w loads u
  | aside {loads v u} (h : History link number w loads v) (hsame : u.brains[number]? = v.brains[number]?) :
    History link number w loads u

/-- Under each id a brain has the module that was set last, and the ids are within bounds. -/
structure Holds (number : Nat) (loads : List (String × StoredModule E.Value)) (v : World E K) : Prop where
  brain : ∃ b, v.brains[number]? = some b ∧ ∀ id, b.modules.lookup id = loads.lookup id
  short : ∀ id m, loads.lookup id = some m → id.utf8ByteSize ≤ Limit.identifier.maxBytes

namespace Holds

variable {number : Nat} {loads : List (String × StoredModule E.Value)} {b : Brain E} {v u : World E K}

theorem of_stays (hshort : ∀ id m, loads.lookup id = some m → id.utf8ByteSize ≤ Limit.identifier.maxBytes)
    (hmodules : ∀ id, b.modules.lookup id = loads.lookup id) (h : Stays number b u) : Holds number loads u := by
  obtain ⟨context, hu⟩ := h
  exact ⟨⟨_, hu, hmodules⟩, hshort⟩

theorem of_stores {id : String} {m : StoredModule E.Value}
    (hshort : ∀ id m, loads.lookup id = some m → id.utf8ByteSize ≤ Limit.identifier.maxBytes)
    (hmodules : ∀ id, b.modules.lookup id = loads.lookup id)
    (hid : id.utf8ByteSize ≤ Limit.identifier.maxBytes) (h : Stores number b id m u) :
    Holds number ((id, m) :: loads) u := by
  obtain ⟨b', hu, hlookup⟩ := h
  have latest (other : String) :
      ((id, m) :: loads).lookup other = if other = id then some m else loads.lookup other := by
    rw [List.lookup_cons]
    by_cases hother : other = id
    · rw [if_pos hother, hother, beq_self_eq_true]
    · rw [if_neg hother, beq_eq_false_iff_ne.mpr hother]
  refine ⟨⟨b', hu, fun other => ?_⟩, fun other m' hother => ?_⟩
  · rw [hlookup, latest, hmodules]
  · rw [latest] at hother
    split at hother
    · next heq => exact heq ▸ hid
    · exact hshort other m' hother

end Holds

section

variable {number : Nat} {link : Link E K} (hl : (held E K number).admits link) {w : World E K} {b : Brain E}
  (hb : w.brains[number]? = some b) (hnew : b.modules = [])
include hl hb hnew

theorem History.holds {loads : List (String × StoredModule E.Value)} {v : World E K}
    (h : History link number w loads v) : Holds number loads v := by
  induction h with
  | start => exact ⟨⟨b, hb, fun id => by rw [hnew]⟩, fun id m hm => by cases hm⟩
  | @loaded loads v u x id source namespaceObject h hruns hset ih =>
    obtain ⟨⟨b', hv, hmodules⟩, hshort⟩ := ih
    have yields := Brain.setModule_yields hl hv id source
    rw [hset] at yields
    obtain ⟨hid, other, x', hruns', hstores⟩ := yields.1 rfl
    cases hruns.symm.trans hruns'
    exact .of_stores hshort hmodules hid hstores
  | @failed loads v u id source h hleaves hfails ih =>
    obtain ⟨⟨b', hv, hmodules⟩, hshort⟩ := ih
    have yields := Brain.setModule_yields hl hv id source
    refine .of_stays hshort hmodules ?_
    obtain ⟨answer, hdone⟩ | hfault := hleaves
    · rw [hdone] at yields hfails
      exact yields.2 fun heq => hfails (congrArg (Outcome.done · u) (Option.some.inj heq))
    · rw [hfault] at yields
      exact yields.2 nofun
  | @updated loads v u state buffer h hleaves ih =>
    obtain ⟨⟨b', hv, hmodules⟩, hshort⟩ := ih
    exact .of_stays hshort hmodules ((Brain.runUpdate_stays hl hv state buffer).leaves hleaves)
  | @told loads v u id h hleaves ih =>
    obtain ⟨⟨b', hv, hmodules⟩, hshort⟩ := ih
    exact .of_stays hshort hmodules ((Brain.namespaceJson_stays hl hv id).leaves hleaves)
  | aside h hsame ih =>
    obtain ⟨⟨b', hv, hmodules⟩, hshort⟩ := ih
    exact ⟨⟨b', hsame.trans hv, hmodules⟩, hshort⟩

end

/-! ## What is found -/

/-- The JSON text of a module's namespace, if there is a module. -/
def Brain.encoded (b : Brain E) : Option (StoredModule E.Value) → Inside E K (Option String)
  | some m => do pure (some (← Inside.encodeState b.surroundings m.namespaceObject))
  | none => pure none

/-- What scripts of a brain and the host find under each id. -/
structure Offers (number : Nat) (b : Brain E) (modules : String → Option (StoredModule E.Value))
    (v : World E K) : Prop where
  sources : ∀ id, b.moduleSource id = (modules id).map StoredModule.source
  scripts : ∀ (id : String) (link : Link E K) (u : World E K),
    Act.serve b.surroundings (.module id) link u =
      .done ((modules id).elim .none fun m => .module m.namespaceObject)
        (Act.checked (Limit.identifier.checkLength id.utf8ByteSize) u)
  host : ∀ (id : String) (link : Link E K),
    (Brain.namespaceJson number id).run link v =
      (Brain.enter number fun b => b.encoded (modules id)).run link v

theorem Act.serve_module {s : Surroundings E} {id : String}
    (h : ∀ m, s.modules.lookup id = some m → id.utf8ByteSize ≤ Limit.identifier.maxBytes) (link : Link E K)
    (u : World E K) :
    Act.serve s (.module id) link u =
      .done ((s.modules.lookup id).elim .none fun m => .module m.namespaceObject)
        (Act.checked (Limit.identifier.checkLength id.utf8ByteSize) u) := by
  unfold Act.serve Act.checkLength
  dsimp only
  rw [Act.bind_apply, Act.warnOf_apply, Outcome.bind_done]
  cases hfound : s.modules.lookup id with
  | none => cases Limit.identifier.checkLength id.utf8ByteSize <;> rfl
  | some m =>
    have fits : Limit.identifier.checkLength id.utf8ByteSize = .ok () := if_neg (Nat.not_lt.mpr (h m hfound))
    rw [fits]
    rfl

theorem Holds.offers {number : Nat} {loads : List (String × StoredModule E.Value)} {v : World E K}
    (h : Holds number loads v) :
    ∃ b, v.brains[number]? = some b ∧ Offers number b (fun id => loads.lookup id) v := by
  obtain ⟨⟨b, hb, hmodules⟩, hshort⟩ := h
  refine ⟨b, hb, fun id => by rw [Brain.moduleSource, hmodules], fun id link u => ?_, fun id link => ?_⟩
  · rw [Act.serve_module (s := b.surroundings) (fun m hm => hshort id m ((hmodules id).symm.trans hm)) link u,
      ← hmodules]
    rfl
  · have same : b.namespaceInside id = (b.encoded (loads.lookup id) : Inside E K _) := by
      rw [← hmodules]
      rfl
    rw [Brain.namespaceJson, Brain.enter_apply, Brain.enter_apply, hb, Option.bind_some]
    cases b.context with
    | none => rfl
    | some c =>
      dsimp only [Option.map_some]
      rw [same]

namespace Script

/-- What a script is given that asks for a module: its namespace, or nothing. -/
def namespaceOf : Answer Value → Value
  | .module namespaceObject => namespaceObject
  | _ => .undefined

theorem getModule_apply {K : HostKind} (this : Value) {args : Array Value} (newTarget : Value) (context : Context)
    (s : Surroundings engine) (link : Link engine K) (u : World engine K) {str : Str} {id : String}
    (harg : args[0]? = some (.string str)) (hstr : str.toString? = some id) :
    BrainHost.Act.carryOut s (context.run (callNative (.capability .getModule) this args newTarget)) link u =
      (BrainHost.Act.serve s (.module id) link u).bind fun answer v =>
        .done (context, .ok (namespaceOf answer)) v := by
  have first : argOf args 0 = .string str := by rw [argOf, harg, Option.getD_some]
  have filled : args.isEmpty = false := by
    cases hempty : args.isEmpty with
    | true =>
      rw [Array.isEmpty_iff.mp hempty] at harg
      cases harg
    | false => rfl
  have read : textOf (.string str) = pure (some id) := by
    rw [← hstr]
    rfl
  obtain ⟨k, hk, hanswer⟩ : ∃ k, callCapability .getModule args context.realm =
      .ask (.host (.module id)) context.realm k ∧
      ∀ answer, k (.answered answer) context.realm =
        .ok (namespaceOf answer) context.realm := by
    unfold callCapability
    dsimp only
    rw [filled, if_neg Bool.false_ne_true, first, read]
    refine ⟨_, rfl, fun answer => ?_⟩
    cases answer <;> rfl
  obtain ⟨resume, hask, hresume⟩ := Context.run_host hk
  have asked : context.run (callNative (.capability .getModule) this args newTarget) =
      .ask (.module id) (Machine.abandoned context.threads context.realm) resume := hask
  rw [asked]
  refine (BrainHost.Act.bind_apply ..).trans ?_
  congr 1
  funext answer v
  rw [(hresume answer).1 _ _ (hanswer answer)]
  rfl

end Script

/-- **Hot reload of modules.** A module that is set successfully is found under its id with the namespace that it
has run to, and under every other id there is what there was; one that fails, at whatever stage, or whose run is
broken off by a panic, leaves all modules and their sources as they were. This is so whatever host functions do
while its source runs. After modules were set in a new brain one after the other, among updates and all else that
may happen, scripts of the brain are answered for each id with the namespace of the module that was set last
successfully, and the host is given its JSON text, and where there is none they get nothing. A brain answers so
whatever its scripts do, and a script that asks by `getModule` is given that answer. -/
theorem modules_reload {S : Type} {reach : Reach} (host : Host S) (depth : Nat)
    (hhost : ∀ callback, (host callback).Asks reach.allows) (number : Nat) {w : World E (Minded S)} {b : Brain E}
    (hb : w.brains[number]? = some b) :
    (∀ id source, ((Brain.setModule number id source).run (host.link depth) w).Yields fun answer v =>
      (answer = some (.ok ()) →
        ∃ namespaceObject u, Brain.Evaluates number id source (host.link depth) w namespaceObject u ∧
          Stores number b id ⟨namespaceObject, source⟩ v) ∧
      (answer ≠ some (.ok ()) → Stays number b v)) ∧
    (b.modules = [] → ∀ loads v, History (host.link depth) number w loads v →
      ∃ b', v.brains[number]? = some b' ∧ Offers number b' (fun id => loads.lookup id) v) ∧
    (∀ b : Brain E,
      (∀ state view, Inside.Plain b.surroundings True (b.updateWith state view : Inside E (Minded S) String)) ∧
      (∀ id source, Inside.Plain b.surroundings True (b.runModule id source : Inside E (Minded S) E.Value)) ∧
      ∀ id, Inside.Plain b.surroundings True (b.namespaceInside id : Inside E (Minded S) (Option String))) ∧
    ∀ (this : Script.Value) {args : Array Script.Value} (newTarget : Script.Value) (context : Script.Context)
      (s : Surroundings Script.engine) (link : Link Script.engine (Minded S)) (u : World Script.engine (Minded S))
      {str : Script.Str} {id : String}, args[0]? = some (.string str) → str.toString? = some id →
        Act.carryOut s (context.run (Script.callNative (.capability .getModule) this args newTarget)) link u =
          (Act.serve s (.module id) link u).bind fun answer v =>
            .done (context, .ok (Script.namespaceOf answer)) v := by
  have hl : (held E (Minded S) number).admits (host.link depth) := held.admits hhost depth
  refine ⟨fun id source => ?_, fun hnew loads v history => ?_, fun b => ⟨?_, ?_, ?_⟩, ?_⟩
  · exact (Brain.setModule_yields hl hb id source).mono fun answer v hv => ⟨fun hok => (hv.1 hok).2, hv.2⟩
  · exact (history.holds hl hb hnew).offers
  · exact fun state view => .updateWith b state view
  · exact fun id source => .runModule b id source
  · exact fun id => .namespaceInside b id
  · exact fun this _ newTarget context s link u _ _ => Script.getModule_apply this newTarget context s link u

/-- An engine whose modules are their sources, of which some do not compile. -/
def shelvingEngine : Engine :=
  { Engine.idle Unit String () id id with
    Module := String
    compile := fun _ source c => .done (c, if source = "bad" then .error "SyntaxError" else .ok source)
    start := fun _ c => .done (c, .ok "")
    namespaceOf := fun m c => .done (c, .ok m) }

def shelf : Brain shelvingEngine :=
  { context := some (), source := "", bridge := 0, updateAgent := "", maxPendingJobs := none }

def shelving : World shelvingEngine (Minded Unit) := { brains := #[shelf], host := { own := () } }

def passive : Host Unit := fun _ => .finish .none

/-- The modules of the shelf once `m` was set twice. -/
def shelved : List (String × StoredModule shelvingEngine.Value) :=
  [("m", { namespaceObject := ("2" : String), source := "2" }),
    ("m", { namespaceObject := ("1" : String), source := "1" })]

/-- A module that is set anew is given out, and one that does not compile leaves it there. -/
theorem modules_reload_shelving :
    (∀ callback, (passive callback).Asks (Reach.allows ⟨fun _ => False, fun _ _ => False⟩)) ∧
    shelving.brains[0]? = some shelf ∧ shelf.modules = [] ∧
    ∃ v b, v.brains[0]? = some b ∧ Offers 0 b (fun id => shelved.lookup id) v ∧
      Act.serve b.surroundings (.module "m") (passive.link 1) v = .done (.module ("2" : String)) v := by
  have allowed (callback : Callback) :
      (passive callback).Asks (Reach.allows ⟨fun _ => False, fun _ _ => False⟩) := trivial
  refine ⟨allowed, rfl, rfl, ?_⟩
  have histories := (modules_reload passive 1 allowed 0 (w := shelving) rfl).2.1 rfl
  obtain ⟨v, history⟩ : ∃ v, History (passive.link 1) 0 shelving shelved v :=
    ⟨_, .failed "m" "bad" (.loaded (.loaded .start rfl rfl) rfl rfl) (.inl ⟨_, rfl⟩) nofun⟩
  obtain ⟨b, hb, offers⟩ := histories _ _ history
  exact ⟨v, b, hb, offers, (offers.scripts "m" (passive.link 1) v).trans rfl⟩

end BrainHost
