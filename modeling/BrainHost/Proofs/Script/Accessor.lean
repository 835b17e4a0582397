import BrainHost.Proofs.Json.Units
import BrainHost.Proofs.Number.Whole
import BrainHost.Proofs.Script.Capability

/-! # Accessors of actors

When a script's call of an accessor gets to the host, and with what. A call whose arguments do not fit says so
in the log, with a message for everything that is wrong, and gets to no hook of an actor. -/

namespace BrainHost

/-! ## Arguments that fit

Nothing is said of them. -/

namespace Act

variable {E : Engine} {K : HostKind} {α β : Type} {a : α} {b : β} {args : List Argument} {kind : FieldKind}

theorem Tells.bind_apply {m : Act E K α} {f : α → Act E K β} {messages : List String} (hm : m.Tells messages a)
    (hf : f a = Pure.pure b) (link : Link E K) (w : World E K) :
    (m >>= f) link w = (do forM messages Act.logError; Pure.pure b : Act E K β) link w := by
  rw [hm.bind_pure hf]

theorem idArguments_of_some {ids : Nat × Nat} (h : ids? args = some ids) :
    (idArguments args : Act E K _) = pure (some ids) := by
  have told := idArguments_tells (E := E) (K := K) args
  rw [idFaults_eq_nil.mpr (Option.ne_none_iff_exists'.mpr ⟨_, h⟩), h] at told
  exact told.eq_pure

theorem isReadable_of_receives (h : receives args kind = true) : (isReadable kind args : Act E K _) = pure true := by
  have told := isReadable_tells (E := E) (K := K) kind args
  rw [h] at told
  exact told.eq_pure

theorem writtenValue_of_made {value : FieldValue} (h : made args kind = .value value) :
    (writtenValue kind args : Act E K _) = pure (.value value) := by
  have told := writtenValue_tells (E := E) (K := K) kind args
  rw [faults_eq_nil.mpr (by rw [h]; exact nofun), h] at told
  exact told.eq_pure

end Act

namespace Script

/-! ## What accessors are for -/

/-- A value numbers an actor or a field: a finite number from 0 to 65535, cut off at its point. -/
def Value.Numbers (x : Value) (n : Nat) : Prop :=
  ∃ y b, x = .number y ∧ Number.toBinary? y = some b ∧ 0 ≤ b.signedValue ∧ b.signedValue ≤ 65535 ∧
    n = ⌊b.signedValue⌋₊

theorem Value.numbers_of_bounds {y : Float} {n : Nat} (mantissa : Nat) (exponent : Int)
    (h : Number.toBinary? y = some ⟨false, mantissa, exponent⟩) (low : (n : ℚ) ≤ mantissa * (2 : ℚ) ^ exponent)
    (high : mantissa * (2 : ℚ) ^ exponent < (n : ℚ) + 1) (small : mantissa * (2 : ℚ) ^ exponent ≤ 65535) :
    (Value.number y).Numbers n := by
  have nonneg : (0 : ℚ) ≤ mantissa * (2 : ℚ) ^ exponent := by positivity
  exact ⟨y, _, rfl, h, nonneg, small, ((Nat.floor_eq_iff nonneg).mpr ⟨low, high⟩).symm⟩

/-- The object that a value is read into, where one is needed, is at hand. -/
inductive Receives (args : List Value) : FieldKind → Prop
  | whole {kind : FieldKind} (h : kind.inParts = false) : Receives args kind
  | parts {kind : FieldKind} {ref : Nat} (h : args[2]? = some (.object ref)) : Receives args kind

/-- The value that is written for arguments. -/
inductive Writes (args : List Value) : FieldKind → FieldValue → Prop
  | boolean : Writes args .boolean (.boolean ((args[2]?).any Value.truthy))
  | float {x : Float} (hx : args[2]? = some (.number x)) : Writes args .float (.float x.toFloat32)
  | vector3 {x y z : Float} (hx : args[2]? = some (.number x)) (hy : args[3]? = some (.number y))
    (hz : args[4]? = some (.number z)) : Writes args .vector3 (.vector3 x.toFloat32 y.toFloat32 z.toFloat32)
  | quaternion {x y z w : Float} (hx : args[2]? = some (.number x)) (hy : args[3]? = some (.number y))
    (hz : args[4]? = some (.number z)) (hw : args[5]? = some (.number w)) :
    Writes args .quaternion (.quaternion x.toFloat32 y.toFloat32 z.toFloat32 w.toFloat32)
  | missing (h : args[2]? = none) : Writes args .string (.string "")
  | nullish {x : Value} (h : args[2]? = some x) (hx : x.isNullish = true) : Writes args .string (.string "")
  | text {s : Str} {text : String} (h : args[2]? = some (.string s)) (hs : s.toString? = some text) :
    Writes args .string (.string text)

/-- An accessor gets to the host by a call of its hook. -/
inductive Reaches (hooks : Hooks) (args : List Value) : Direction → FieldKind → Callback → Prop
  | get {kind : FieldKind} {x y : Value} {others : List Value} {actor field : Nat}
    (hhook : hooks.isSet (.getter kind) = true) (hargs : args = x :: y :: others) (hactor : x.Numbers actor)
    (hfield : y.Numbers field) (hreceives : Receives args kind) :
    Reaches hooks args .get kind (.getField kind actor field)
  | set {kind : FieldKind} {x y : Value} {others : List Value} {actor field : Nat} {value : FieldValue}
    (hhook : hooks.isSet (.setter kind) = true) (hargs : args = x :: y :: others) (hactor : x.Numbers actor)
    (hfield : y.Numbers field) (hwrites : Writes args kind value) :
    Reaches hooks args .set kind (.setField actor field value)

theorem Reaches.hook {hooks : Hooks} {args : List Value} {direction : Direction} {kind : FieldKind}
    {callback : Callback} (h : Reaches hooks args direction kind callback) :
    hooks.isSet (direction.hook kind) = true := by
  cases h with
  | get hhook => exact hhook
  | set hhook => exact hhook

/-! ## Arguments as they are handed over -/

theorem Argument.id?_of {x : Value} {n : Nat} : (Argument.of x).id? = some n ↔ x.Numbers n := by
  constructor
  · intro h
    cases x with
    | number y =>
      obtain ⟨b, hy, hnonneg, hle, hn⟩ := BrainHost.Argument.id?_number.mp h
      exact ⟨y, b, rfl, hy, hnonneg, hle, hn⟩
    | _ => cases h
  · rintro ⟨y, b, rfl, hy, hnonneg, hle, hn⟩
    exact BrainHost.Argument.id?_number.mpr ⟨b, hy, hnonneg, hle, hn⟩

theorem toString?_eq_empty {s : Str} : s.toString? = some "" ↔ s.isEmpty = true := by
  constructor
  · intro h
    have units : s.units.toList = [] := by rw [Str.eq_ofString h, units_ofString]; rfl
    exact Array.isEmpty_iff.mpr (Array.toList_eq_nil_iff.mp units)
  · intro h
    obtain ⟨units⟩ := s
    have none : units = #[] := Array.isEmpty_iff.mp h
    rw [none]
    rfl

theorem Argument.truthy_of (x : Value) : (Argument.of x).truthy = x.truthy := by
  cases x with
  | string s =>
    change (s.toString? != some "") = !s.isEmpty
    rw [bne, Bool.not_inj_iff, Bool.eq_iff_iff, beq_iff_eq]
    exact toString?_eq_empty
  | _ => rfl

theorem single_of {args : List Value} {i : Nat} {y : Float32} :
    BrainHost.Act.single (args.map Argument.of) i = some y ↔
      ∃ x, args[i]? = some (.number x) ∧ y = x.toFloat32 := by
  rw [BrainHost.Act.single, List.getElem?_map]
  cases args[i]? with
  | none => simp
  | some v =>
    cases v with
    | number x =>
      constructor
      · intro h
        exact ⟨x, rfl, (Option.some.inj h).symm⟩
      · rintro ⟨x', hx, rfl⟩
        cases hx
        rfl
    | _ =>
      constructor
      · intro h
        cases h
      · rintro ⟨x', hx, -⟩
        cases hx

section

variable {args : List Value} {kind : FieldKind}

theorem ids?_eq_some {actor field : Nat} :
    BrainHost.Act.ids? (args.map Argument.of) = some (actor, field) ↔
      ∃ x y others, args = x :: y :: others ∧ x.Numbers actor ∧ y.Numbers field := by
  constructor
  · intro h
    match args, h with
    | x :: y :: others, h =>
      obtain ⟨i, hactor, h⟩ := Option.bind_eq_some_iff.mp h
      obtain ⟨j, hfield, h⟩ := Option.map_eq_some_iff.mp h
      cases h
      exact ⟨x, y, others, rfl, Argument.id?_of.mp hactor, Argument.id?_of.mp hfield⟩
  · rintro ⟨x, y, others, rfl, hactor, hfield⟩
    simp only [List.map_cons, BrainHost.Act.ids?, Argument.id?_of.mpr hactor, Argument.id?_of.mpr hfield]
    rfl

theorem isObject_of {third : Option Value} :
    BrainHost.Act.isObject (third.map Argument.of) = true ↔ ∃ ref, third = some (.object ref) := by
  rcases third with _ | x
  · exact ⟨nofun, nofun⟩
  · cases x with
    | object ref => exact ⟨fun _ => ⟨ref, rfl⟩, fun _ => rfl⟩
    | _ => exact ⟨nofun, nofun⟩

theorem receives_inParts (h : kind.inParts = true) : Receives args kind ↔ ∃ ref, args[2]? = some (.object ref) := by
  constructor
  · rintro (whole | object)
    · rw [h] at whole
      cases whole
    · exact ⟨_, object⟩
  · rintro ⟨_, object⟩
    exact .parts object

theorem receives_iff : BrainHost.Act.receives (args.map Argument.of) kind = true ↔ Receives args kind := by
  have parts : BrainHost.Act.isObject (args.map Argument.of)[2]? = true ↔ ∃ ref, args[2]? = some (.object ref) := by
    rw [List.getElem?_map]
    exact isObject_of
  cases kind with
  | vector3 => exact parts.trans (receives_inParts rfl).symm
  | quaternion => exact parts.trans (receives_inParts rfl).symm
  | _ => exact ⟨fun _ => .whole rfl, fun _ => rfl⟩

theorem single_of_number {i : Nat} {x : Float} (h : args[i]? = some (.number x)) :
    BrainHost.Act.single (args.map Argument.of) i = some x.toFloat32 := single_of.mpr ⟨x, h, rfl⟩

theorem made_boolean : BrainHost.Act.made (args.map Argument.of) .boolean =
    .value (.boolean ((args[2]?).any Value.truthy)) := by
  rw [BrainHost.Act.made, List.getElem?_map]
  rcases args[2]? with _ | x
  · rfl
  · rw [Option.map_some, Option.map_some, Option.getD_some, Argument.truthy_of]
    rfl

theorem made_of_writes {value : FieldValue} (h : Writes args kind value) :
    BrainHost.Act.made (args.map Argument.of) kind = .value value := by
  cases h with
  | boolean => exact made_boolean
  | float hx => rw [BrainHost.Act.made, single_of_number hx]
  | vector3 hx hy hz => rw [BrainHost.Act.made, single_of_number hx, single_of_number hy, single_of_number hz]
  | quaternion hx hy hz hw =>
    rw [BrainHost.Act.made, single_of_number hx, single_of_number hy, single_of_number hz, single_of_number hw]
  | missing hnone =>
    rw [BrainHost.Act.made, List.getElem?_map, hnone]
    rfl
  | nullish hthird hnullish =>
    rename_i x
    rw [BrainHost.Act.made, List.getElem?_map, hthird]
    cases x <;> first | rfl | cases hnullish
  | text hthird htext =>
    rw [BrainHost.Act.made, List.getElem?_map, hthird, Option.map_some, Argument.of, htext]
    rfl

end

/-! ## Dispatch -/

/-- What a script is answered once the host has replied. A string that is too long counts as empty. -/
def answered : Direction → BrainHost.Reply → Answer Value
  | .get, .value (.string s) =>
    .field (.string (if s.utf8ByteSize ≤ Limit.actorString.maxBytes then s else ""))
  | .get, .value v => .field v
  | _, _ => .none

section

variable {K : HostKind} {args : List Value} {direction : Direction} {kind : FieldKind} {link : Link engine K}
  {w : World engine K}

/-- What is left of a call once the host has replied: a string that is too long is warned of. -/
def settled (direction : Direction) (reply : BrainHost.Reply) (w : World engine K) : World engine K :=
  match direction, reply with
  | .get, .value (.string s) => BrainHost.Act.checked (Limit.actorString.checkLength s.utf8ByteSize) w
  | _, _ => w

theorem readField_apply (actor field : Nat) {α : Type} (f : Option FieldValue → BrainHost.Act engine K α) :
    (BrainHost.Act.readField kind actor field >>= f) link w =
      (link (.getField kind actor field) w).bind fun reply v =>
        match (answered .get reply : Answer Value) with
        | .field value => f (some value) link (settled .get reply v)
        | _ => f none link (settled .get reply v) := by
  unfold BrainHost.Act.readField
  rw [BrainHost.Act.bind_assoc', BrainHost.Act.bind_apply, BrainHost.Act.invoke_apply]
  congr 1
  funext reply v
  cases reply with
  | value value =>
    cases value with
    | string s =>
      dsimp only [answered, settled]
      rw [BrainHost.Act.bind_assoc', BrainHost.Act.bind_apply, BrainHost.Act.checkLength,
        BrainHost.Act.warnOf_apply, Outcome.bind_done]
      unfold Limit.checkLength
      by_cases long : s.utf8ByteSize > Limit.actorString.maxBytes
      · rw [if_pos long, if_neg (Nat.not_le.mpr long)]
        rfl
      · rw [if_neg long, if_pos (Nat.not_lt.mp long)]
        rfl
    | _ => rfl
  | _ => rfl

theorem accessField_of_reaches {callback : Callback} (h : Reaches w.hooks args direction kind callback) :
    BrainHost.Act.accessField direction kind (args.map Argument.of) link w =
      (link callback w).bind fun reply v => .done (answered direction reply) (settled direction reply v) := by
  unfold BrainHost.Act.accessField
  rw [BrainHost.Act.bind_apply, BrainHost.Act.isSet_apply, Outcome.bind_done, h.hook, if_neg (by decide)]
  cases h with
  | get hhook hargs hactor hfield hreceives =>
    rw [BrainHost.Act.idArguments_of_some (ids?_eq_some.mpr ⟨_, _, _, hargs, hactor, hfield⟩), pure_bind]
    dsimp only
    rw [BrainHost.Act.isReadable_of_receives (receives_iff.mpr hreceives), pure_bind, if_pos rfl, readField_apply]
    congr 1
    funext reply v
    cases reply with
    | value value => cases value <;> rfl
    | _ => rfl
  | set hhook hargs hactor hfield hwrites =>
    rw [BrainHost.Act.idArguments_of_some (ids?_eq_some.mpr ⟨_, _, _, hargs, hactor, hfield⟩), pure_bind]
    dsimp only
    rw [BrainHost.Act.writtenValue_of_made (made_of_writes hwrites), pure_bind]
    dsimp only
    rw [BrainHost.Act.bind_apply, BrainHost.Act.invoke_apply]
    rfl

end

end Script

end BrainHost
