import BrainHost.Proofs.Act.Field
import BrainHost.Proofs.Script.Reach

/-! # Functions of the host in scripts

Scripts call functions of the host with values of any kind. Conversions of arguments that throw are
captured, and requests that go wrong come back without a value, so that a call returns. Two calls do
throw: one that fills in an object that refuses it, and one that writes a string that is no text. -/

namespace BrainHost

/-! ## Calls -/

namespace Script

variable {fits : Fitting Value} {args : Array Value} {r : Realm}

theorem Argument.of_object {x : Value} (h : Argument.of x = .object) : ∃ ref, x = .object ref := by
  cases x with
  | object ref => exact ⟨ref, rfl⟩
  | _ => cases h

theorem Argument.of_text {x : Value} (h : Argument.of x = .text none) :
    ∃ s, x = .string s ∧ s.toString? = none := by
  cases x with
  | string s => exact ⟨s, rfl, Argument.text.inj h⟩
  | _ => cases h

theorem argument_at {i : Nat} {a : Argument} (h : (args.toList.map Argument.of)[i]? = some a) :
    Argument.of (argOf args i) = a := by
  rw [List.getElem?_map, Option.map_eq_some_iff] at h
  obtain ⟨x, hx, rfl⟩ := h
  rw [Array.getElem?_toList] at hx
  rw [argOf, hx, Option.getD_some]

theorem textOf_calm (v : Value) : Act.Calm fits (textOf v) := by
  refine .bind (.capture _) fun exit => ?_
  cases exit <;> exact .pure _

theorem headline_calm (v : Value) : Act.Calm fits (headline v) := by
  unfold headline
  extract_lets named told
  have named_calm (name : Option String) : Act.Calm fits (named name) := by
    refine .bind (.capture _) fun message => ?_
    extract_lets ended
    have ended_calm (message : Option String) : Act.Calm fits (ended message) := by
      dsimp only [ended]
      split <;> exact .pure _
    split
    · exact .ite (ended_calm none) (.bind (textOf_calm _) ended_calm)
    · exact ended_calm none
  have told_calm (isError : Bool) : Act.Calm fits (told isError) := by
    refine .ite (.bind (textOf_calm v) fun text => .pure _) (.bind (.capture _) fun name => ?_)
    split <;> exact .bind (.pure _) named_calm
  split
  · refine .bind (.read _) fun o => ?_
    split <;> exact .bind (.pure _) told_calm
  · exact told_calm false

theorem callField_calm {direction : Direction} {kind : FieldKind}
    (hparts : direction = .get → kind.inParts = true → ∀ ref, argOf args 2 = .object ref →
      ∀ value : FieldValue, value.kind = kind →
        (fillParts (argOf args 2) value.parts r).Calm Request.Fits)
    (htext : direction = .set → kind = .string → ∀ s, argOf args 2 = .string s → s.toString? ≠ none) :
    (callField direction kind args r).Calm Request.Fits := by
  refine Act.settles_host_bind fun answer hfits => ?_
  cases direction with
  | get =>
    obtain rfl | ⟨value, rfl, hkind, hobject⟩ := hfits
    · exact ⟨_, rfl⟩
    have filled (hin : kind.inParts = true) :
        (fillParts (argOf args 2) value.parts r).Calm Request.Fits := by
      obtain ⟨ref, href⟩ := Argument.of_object (argument_at (hobject hin))
      exact hparts rfl hin ref href value hkind
    cases value with
    | vector3 x y z => exact filled (hkind ▸ rfl)
    | quaternion x y z w => exact filled (hkind ▸ rfl)
    | _ => exact ⟨_, rfl⟩
  | set =>
    obtain rfl | ⟨rfl, hkind, hthird⟩ := hfits
    · exact ⟨_, rfl⟩
    · obtain ⟨s, hs, hnone⟩ := Argument.of_text (argument_at hthird)
      exact absurd hnone (htext rfl hkind s hs)

theorem callService_calm (name arguments : Value) : Act.Calm fits (callService name arguments) := by
  refine .bind (textOf_calm name) fun service => ?_
  cases service with
  | none => exact .host _ fun _ => .pure _
  | some service =>
    refine .bind (.capture _) fun exit => ?_
    cases exit with
    | thrown e => exact .bind (headline_calm e) fun reason => .host _ fun _ => .pure _
    | left e => exact .bind (headline_calm e) fun reason => .host _ fun _ => .pure _
    | ok json =>
      refine .host _ fun answer => ?_
      cases answer with
      | service result =>
        refine .bind (.capture _) fun exit => ?_
        cases exit with
        | ok v => exact .pure _
        | _ => exact .host _ fun _ => .pure _
      | _ => exact .pure _

/-- A call of a service returns undefined where it is denied, and else what it reads, which is not undefined. -/
theorem callService_yields {P : Value → Prop}
    (denied : ∀ {request answer}, fits request answer → request.Denied answer → P .undefined)
    (given : ∀ {service json result v}, fits (.service service json) (.service result) → v.isUndefined = false → P v)
    (name arguments : Value) : Act.Yields fits P (callService name arguments) := by
  refine .bind _ fun text => ?_
  cases text with
  | none => exact .host fun _ hfits => .pure (denied hfits trivial)
  | some service =>
    have unwritable (e : Value) : Act.Yields fits P (headline e >>= fun reason =>
        Act.host (.unwritableArgs service reason) >>= fun _ => pure .undefined) :=
      .bind _ fun reason => .host fun _ hfits => .pure (denied hfits trivial)
    refine .bind _ fun exit => ?_
    cases exit with
    | thrown e => exact unwritable e
    | left e => exact unwritable e
    | ok json =>
      refine .host fun answer hfits => ?_
      cases answer with
      | service result =>
        intro r
        obtain ⟨r', -, ⟨v, read, defined⟩ | ⟨e, read⟩⟩ := readJson_still (.ofString result) r
        · change Res.Settles _ _ ((readJson (.ofString result) r).capture.bind _)
          rw [read]
          rintro _ ⟨⟩
          exact given hfits defined
        · have unreadable : Act.Yields fits P (Act.host (.unreadableResult result) >>= fun _ => pure .undefined) :=
            .host fun _ hfits => .pure (denied hfits trivial)
          change Res.Settles _ _ ((readJson (.ofString result) r).capture.bind _)
          rw [read]
          exact unreadable r'
      | _ => exact .pure (denied hfits nofun)

theorem callService_unanswered (name arguments : Value) :
    Act.Yields Request.Unanswered (· = .undefined) (callService name arguments) := by
  apply callService_yields
  · exact fun _ _ => rfl
  · exact fun hfits _ => absurd rfl (hfits _)

theorem callService_not_denied (name arguments : Value) :
    Act.Yields (fun request answer => ¬ request.Denied answer) (·.isUndefined = false) (callService name arguments) :=
  callService_yields (fun hfits hdenied => absurd hdenied hfits) (fun _ defined => defined) name arguments

/-- Tells the host the text of the first argument, if it has one. -/
def tell (request : String → Request) (args : Array Value) : Act Value := do
  if args.isEmpty then pure .undefined
  else
    match ← textOf (argOf args 0) with
    | some text => do
      let _ ← Act.host (request text)
      pure .undefined
    | none => pure .undefined

theorem tell_calm (request : String → Request) (args : Array Value) : Act.Calm fits (tell request args) := by
  refine .ite (.pure _) (.bind (textOf_calm _) fun text => ?_)
  cases text with
  | some text => exact .host _ fun _ => .pure _
  | none => exact .pure _

theorem callCapability_calm (c : Capability)
    (hfield : ∀ direction kind, c = .field direction kind → (callField direction kind args r).Calm fits) :
    (callCapability c args r).Calm fits := by
  cases c with
  | log => exact tell_calm .debug args r
  | logError => exact tell_calm .error args r
  | getModule =>
    refine Act.Calm.ite (.pure _) (.bind (textOf_calm _) fun id => ?_) r
    cases id with
    | some id =>
      refine .host _ fun answer => ?_
      cases answer <;> exact .pure _
    | none => exact .pure _
  | callService => exact callService_calm _ _ r
  | field direction kind => exact hfield direction kind rfl

/-- The calls that can throw: a getter that fills in an object which does not take it, and a setter that
is handed a string which is no text. -/
inductive Exposed (args : Array Value) (r : Realm) : Capability → Prop
  | parts {kind : FieldKind} {ref : Nat} {value : FieldValue} (hparts : kind.inParts = true)
    (hobject : argOf args 2 = .object ref) (hkind : value.kind = kind)
    (h : ¬ (fillParts (argOf args 2) value.parts r).Calm Request.Fits) :
    Exposed args r (.field .get kind)
  | text {s : Str} (hs : argOf args 2 = .string s) (hnone : s.toString? = none) :
    Exposed args r (.field .set .string)

theorem callCapability_calm_of_not_exposed {c : Capability} (h : ¬ Exposed args r c) :
    (callCapability c args r).Calm Request.Fits := by
  refine callCapability_calm c fun direction kind hc => callField_calm ?_ ?_
  · rintro rfl hin ref href value hkind
    rw [hc] at h
    exact Classical.not_not.mp fun hthrows => h (.parts hin href hkind hthrows)
  · rintro rfl rfl s hs hnone
    rw [hc] at h
    exact h (.text hs hnone)

theorem Context.run_host {α : Type} {c : Context} {m : Act α} {request : Request} {r : Realm}
    {k : Reply → Realm → Res α} (h : m c.realm = .ask (.host request) r k) :
    ∃ resume, c.run m = .ask request (Machine.abandoned c.threads r) resume ∧ ∀ answer,
      (∀ a s, k (.answered answer) r = .ok a s → resume answer = .done (⟨s, c.threads⟩, .ok a)) ∧
      ∀ e s, k (.answered answer) r = .thrown e s → resume answer = .done (⟨s, c.threads⟩, .error e) := by
  obtain ⟨n, hn⟩ : ∃ n, Act.endless = n + 2 := ⟨Act.endless - 2, by decide⟩
  have sound : (Res.ask (.host request) r k).Sound := h ▸ m.sound c.realm
  refine ⟨fun answer => Machine.run (n + 1) c.threads (.enter ⟨k (.answered answer), sound (.answered answer)⟩ r),
    ?_, ?_⟩
  · unfold Context.run
    rw [hn, Running.enter_eq h]
    rfl
  · intro answer
    constructor
    · intro a s hk
      dsimp only
      rw [Running.enter_eq hk]
      rfl
    · intro e s hk
      dsimp only
      rw [Running.enter_eq hk]
      rfl

theorem callField_eq (direction : Direction) (kind : FieldKind) (args : Array Value) (r : Realm) :
    ∃ k, callField direction kind args r =
        .ask (.host (.field direction kind (args.toList.map Argument.of))) r k ∧
      k (.answered .none) r = .ok .undefined r ∧
      (∀ value : FieldValue, value.kind.inParts = true →
        k (.answered (.field value)) r = fillParts (argOf args 2) value.parts r) ∧
      ∀ s, argOf args 2 = .string s → k (.answered .unreadable) r = refuseText s r := by
  refine ⟨_, rfl, rfl, fun value hvalue => ?_, fun s hs => ?_⟩
  · cases value with
    | vector3 x y z => rfl
    | quaternion x y z w => rfl
    | _ => cases hvalue
  · dsimp only
    rw [hs]
    rfl

theorem callField_barred {K : HostKind} {direction : Direction} {kind : FieldKind} (this : Value) (args : Array Value)
    (newTarget : Value) (context : Context) (s : Surroundings engine) {link : Link engine K} (hlink : link.Typed)
    (hexposed : ¬ Exposed args context.realm (.field direction kind)) (hadmits : (erring engine K).admits link)
    (hbars : link.Bars) {w v : World engine K} {context' : Context} {result : Except Value Value}
    (hrun : BrainHost.Act.carryOut s
      (context.run (callNative (.capability (.field direction kind)) this args newTarget)) link w =
        .done (context', result) v) :
    result = .ok .undefined ∧ context' = context ∧ Erred w v := by
  obtain ⟨k, hk, hnone, -, htext⟩ := callField_eq direction kind args context.realm
  obtain ⟨resume, hask, hresume⟩ := Context.run_host (m := callField direction kind args) hk
  have asked : context.run (callNative (.capability (.field direction kind)) this args newTarget) =
      .ask (.field direction kind (args.toList.map Argument.of))
        (Machine.abandoned context.threads context.realm) resume := hask
  rw [asked] at hrun
  obtain ⟨answer, u, hanswer, hrest⟩ := BrainHost.Act.bind_eq_done.mp hrun
  obtain ⟨herred, rfl⟩ | rfl := BrainHost.Act.accessField_erred hadmits hbars hanswer
  · have ended := (hresume .none).1 _ _ hnone
    have hdone : BrainHost.Act.carryOut s (.done (context, .ok .undefined)) link u =
        .done (context', result) v := ended ▸ hrest
    cases hdone
    exact ⟨rfl, rfl, herred⟩
  · -- Only a string that is no text is not read, and that call is exposed.
    have hfits := BrainHost.Act.accessField_fits hlink hanswer
    cases direction with
    | get =>
      obtain hnone | ⟨value, hvalue, -⟩ := hfits
      · cases hnone
      · cases hvalue
    | set =>
      obtain hnone | ⟨-, rfl, hthird⟩ := hfits
      · cases hnone
      · obtain ⟨t, ht, hnone⟩ := Argument.of_text (argument_at hthird)
        exact absurd (.text ht hnone) hexposed

/-- **Calls return.** Whatever values a script hands to a function of the host, the call returns to the
script and does not throw, unless it is an exposed one. A field that is not got to, because an argument is bad
or its hook is missing, is undefined and leaves all else as it was, but for an error that is logged. So is the
call of a service that is not got to, but for what conversions of its arguments do; and whenever such a call is
undefined, something is logged as wrong. -/
theorem capabilities_return {K : HostKind} (c : Capability) (this : Value) (args : Array Value)
    (newTarget : Value) (context : Context) (s : Surroundings engine) {link : Link engine K}
    (hlink : link.Typed) (hexposed : ¬ Exposed args context.realm c) {w v : World engine K}
    {context' : Context} {result : Except Value Value}
    (hrun : BrainHost.Act.carryOut s (context.run (callNative (.capability c) this args newTarget)) link w =
      .done (context', result) v) :
    (∃ value, result = .ok value) ∧
      (∀ direction kind, c = .field direction kind → (erring engine K).admits link → link.Bars →
        result = .ok .undefined ∧ context' = context ∧ Erred w v) ∧
      (c = .callService → (link.Unserved → result = .ok .undefined) ∧
        ((recording engine K).admits link → s.bridge.isSome = true → result = .ok .undefined → Complained w v)) := by
  have settles := context.run_settles (callCapability_calm_of_not_exposed hexposed)
  have returns := settles.carryOut (fun h => BrainHost.Act.serve_fits hlink h) hrun
  refine ⟨returns, ?_, ?_⟩
  · rintro direction kind rfl hadmits hbars
    exact callField_barred this args newTarget context s hlink hexposed hadmits hbars hrun
  · rintro rfl
    obtain ⟨value, rfl⟩ := returns
    constructor
    · intro hunserved
      have unanswered := context.run_settles (callService_unanswered (argOf args 0) (argOf args 1) context.realm)
      rw [unanswered.carryOut (fun h => BrainHost.Act.serve_unserved hunserved h) hrun value rfl]
    · rintro hadmits hbridge ⟨⟩
      have defined := context.run_settles (callService_not_denied (argOf args 0) (argOf args 1) context.realm)
      have told := defined.carryOut_or complaints_tally hadmits
        (fun h hdenied => BrainHost.Act.serve_denied hbridge hadmits h hdenied) hrun
      exact told.resolve_left fun defined => nomatch defined _ rfl

/-- A host that is never called for actors or services, and whose sinks take everything. -/
def aloof : Link engine ⟨Unit, Empty⟩ := fun callback w =>
  match callback with
  | .getField _ _ _ => .stuck
  | .setField _ _ _ => .stuck
  | .callService _ _ _ => .stuck
  | _ => .done .none w

def gettable : World engine ⟨Unit, Empty⟩ := { hooks := ⟨[.getter .boolean]⟩, host := () }

theorem run_denied (c : Capability) (args : Array Value) (s : Surroundings engine) (request : Request) {r : Realm}
    {k : Reply → Realm → Res Value}
    (h : callNative (.capability c) .undefined args .undefined {} = .ask (.host request) r k)
    (closed : k (.answered .none) r = .ok .undefined r) {v : World engine ⟨Unit, Empty⟩}
    (served : BrainHost.Act.serve s request aloof gettable = .done .none v) :
    BrainHost.Act.carryOut s
      ((⟨{}, #[]⟩ : Context).run (callNative (.capability c) .undefined args .undefined)) aloof gettable =
        .done (⟨r, #[]⟩, .ok .undefined) v := by
  obtain ⟨resume, hask, hresume⟩ := Context.run_host (c := ⟨{}, #[]⟩) h
  have ended := (hresume .none).1 _ _ closed
  rw [hask]
  exact BrainHost.Act.bind_eq_done.mpr ⟨.none, v, served, ended ▸ rfl⟩

/-- `getActorBoolean(null, 2)`, `callService(Symbol())` and, where the host has no services, `callService("a")`
are undefined, and something is logged. -/
theorem capabilities_return_undefined :
    (∃ v, BrainHost.Act.carryOut {} ((⟨{}, #[]⟩ : Context).run
        (callNative (.capability (.field .get .boolean)) .undefined #[.null, .number 2] .undefined)) aloof gettable =
          .done (⟨{}, #[]⟩, .ok .undefined) v ∧ Erred gettable v) ∧
      (∃ context v, BrainHost.Act.carryOut { bridge := some 0 } ((⟨{}, #[]⟩ : Context).run
        (callNative (.capability .callService) .undefined #[.symbol 0] .undefined)) aloof gettable =
          .done (context, .ok .undefined) v ∧ Complained gettable v) ∧
      ∃ context v, BrainHost.Act.carryOut { bridge := some 0 } ((⟨{}, #[]⟩ : Context).run
        (callNative (.capability .callService) .undefined #[.string ⟨#[0x61]⟩] .undefined)) aloof gettable =
          .done (context, .ok .undefined) v ∧ Complained gettable v := by
  have typed : aloof.Typed := nofun
  have unserved : aloof.Unserved := fun _ _ _ _ => rfl
  have kept {texts : World engine ⟨Unit, Empty⟩ → List String} : (growing texts).admits aloof := by
    intro callback w
    cases callback <;> first | exact List.prefix_rfl | trivial
  have reachable : ¬ Exposed #[.null, .number 2] {} (.field .get .boolean) := by
    rintro ⟨hparts, -, -, -⟩
    cases hparts
  have hidden (args : Array Value) : ¬ Exposed args {} .callService := by rintro ⟨⟩
  refine ⟨?_, ?_, ?_⟩
  · obtain ⟨k, hk, hnone, -⟩ := callField_eq .get .boolean #[.null, .number 2] {}
    have run := run_denied (.field .get .boolean) #[.null, .number 2] {} _ hk hnone rfl
    exact ⟨_, run, ((capabilities_return _ _ _ _ _ _ typed reachable run).2.1 _ _ rfl kept
      ⟨fun _ _ _ _ => rfl, fun _ _ _ _ => rfl⟩).2.2⟩
  · have run := run_denied .callService #[.symbol 0] { bridge := some 0 } .unnamedService rfl rfl rfl
    exact ⟨_, _, run, ((capabilities_return _ _ _ _ _ _ typed (hidden _) run).2.2 rfl).2 kept rfl rfl⟩
  · have missing : BrainHost.Act.serve { bridge := some 0 } (.service "a" "null") aloof gettable =
        .done .none (BrainHost.Act.logged .error "brain" ServiceFailure.noHandler.message gettable) := by
      have refusal : BrainHost.Act.refusal? gettable "a" "null" = some .noHandler := by decide
      simp [BrainHost.Act.serve, BrainHost.Act.serveScript, BrainHost.Act.bind_apply,
        BrainHost.Act.callService_refused _ _ _ _ _ refusal, BrainHost.Act.refused]
      rfl
    have run := run_denied .callService #[.string ⟨#[0x61]⟩] { bridge := some 0 } (.service "a" "null") rfl rfl missing
    have returned := (capabilities_return _ _ _ _ _ _ typed (hidden _) run).2.2 rfl
    exact ⟨_, _, run, returned.2 kept rfl (returned.1 unserved)⟩

theorem typeError_thrown {α : Type} (message : String) (r : Realm) :
    ∃ e r', (typeError message : Act α) r = .thrown e r' := ⟨_, _, rfl⟩

def frozen : Realm := { objects := #[{ extensible := false }] }

theorem setOf_frozen (name : String) (x : Value) :
    setOf (.object 0) (.text name) x frozen = .ok (.error .notExtensible) frozen := by
  unfold setOf
  dsimp only
  rw [reach, setOn]
  change setOn.ordinary _ { extensible := false } 0 (.text name) x (.object 0) frozen = _
  rw [setOn.ordinary]
  rfl

theorem fillParts_frozen (name : String) (x : Float32) (parts : List (String × Float32)) :
    ∃ e r, fillParts (.object 0) ((name, x) :: parts) frozen = .thrown e r := by
  obtain ⟨e, r, hthrown⟩ := typeError_thrown (α := Unit) "object is not extensible" frozen
  refine ⟨e, r, ?_⟩
  change Res.bind (Res.bind (Res.bind (setOf (.object 0) (.text name) (.number x.toFloat) frozen) _) _) _ = _
  rw [setOf_frozen]
  change Res.bind (Res.bind (typeError "object is not extensible" frozen) _) _ = _
  rw [hthrown]
  rfl

/-- `getActorVector3(1, 2, Object.freeze({}))` throws when the host has given the vector, and so does
`setActorString(1, 2, "\ud800")` in a realm with nothing in it. -/
theorem exposed_calls_throw :
    (∃ meanwhile resume, (⟨frozen, #[]⟩ : Context).run
        (callCapability (.field .get .vector3) #[.number 1, .number 2, .object 0]) =
          .ask (.field .get .vector3 [.number 1, .number 2, .object]) meanwhile resume ∧
        ∀ x y z, ∃ context e, resume (.field (.vector3 x y z)) = .done (context, .error e)) ∧
      ∃ meanwhile resume, (⟨{}, #[]⟩ : Context).run
        (callCapability (.field .set .string) #[.number 1, .number 2, .string ⟨#[0xD800]⟩]) =
          .ask (.field .set .string [.number 1, .number 2, .text none]) meanwhile resume ∧
        ∃ context e, resume .unreadable = .done (context, .error e) := by
  constructor
  · obtain ⟨k, hk, -, hparts, -⟩ :=
      callField_eq .get .vector3 #[.number 1, .number 2, .object 0] frozen
    obtain ⟨resume, hask, hresume⟩ := Context.run_host (c := ⟨frozen, #[]⟩) hk
    refine ⟨_, resume, hask, fun x y z => ?_⟩
    obtain ⟨e, r, hthrown⟩ := fillParts_frozen "x" x [("y", y), ("z", z)]
    exact ⟨_, _, (hresume _).2 e r ((hparts (.vector3 x y z) rfl).trans hthrown)⟩
  · obtain ⟨k, hk, -, -, htext⟩ :=
      callField_eq .set .string #[.number 1, .number 2, .string ⟨#[0xD800]⟩] {}
    obtain ⟨resume, hask, hresume⟩ := Context.run_host (c := ⟨{}, #[]⟩) hk
    refine ⟨_, resume, hask, ?_⟩
    have thrown : ∃ e r, (refuseText ⟨#[0xD800]⟩ : Act Value) {} = .thrown e r := typeError_thrown _ _
    obtain ⟨e, r, hthrown⟩ := thrown
    exact ⟨_, _, (hresume _).2 e r ((htext _ rfl).trans hthrown)⟩

end Script

end BrainHost
