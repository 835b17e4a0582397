import BrainHost.Proofs.Json.Minified
import BrainHost.Proofs.Json.Replaced

/-! # States keep their meaning

Whatever text of the standard a state is decoded from, what is encoded of it is the rendering of the tree that the
text spells, unless this is more than a state may take. -/

namespace BrainHost

namespace Script

def Spaced.text (t : Spaced Spelling) : String := String.ofList t.chars

/-- The minified rendering of a tree as a text. -/
def Tree.rendering (t : Tree) : String := String.ofList t.minified

theorem Spaced.utf8ByteSize_rendering {text : Spaced Spelling} {t : Tree} (spells : text.inner.Spells t) :
    t.rendering.utf8ByteSize ≤ text.text.utf8ByteSize := by
  have := text.inner.utf8Len_minified t spells
  rw [Tree.rendering, Spaced.text, Spaced.chars, String.utf8ByteSize_ofList, String.utf8ByteSize_ofList,
    String.utf8Len_append, String.utf8Len_append]
  omega

end Script

open Script

variable {K : HostKind}

namespace Inside

theorem decodeState_spelled {text : Spaced Spelling} (shallow : text.inner.tree.level ≤ Json.maxDepth) (c : Context)
    (link : Link Script.engine K) (w : World Script.engine K) :
    (decodeState text.text : Inside Script.engine K Value).run c link w =
      .done (.ok (c.realm.ofJson text.inner.tree).1, ⟨(c.realm.ofJson text.inner.tree).2, c.threads⟩) w := by
  have read : Json.ofUnits? (unitsOf text.text.toList) = .ok text.inner.tree := by
    rw [Spaced.text, String.toList_ofList]
    exact text.ofUnits?_chars shallow
  exact decodeState_ok (parseJson_ok read c) link w

theorem encodeState_spelled {s : Spelling} {t : Tree} (spells : s.Spells t) (plain : t.Plain)
    (shallow : s.tree.level ≤ Json.maxDepth) (short : t.rendering.utf8ByteSize < 2 ^ 30) {c : Context}
    (pristine : c.realm.Pristine) :
    ∃ c' : Context, c'.realm.Pristine ∧ ∀ (around : Surroundings Script.engine) (link : Link Script.engine K)
      (w : World Script.engine K),
      (encodeState around (c.realm.ofJson s.tree).1).run ⟨(c.realm.ofJson s.tree).2, c.threads⟩ link w =
        .done (if Limit.json.maxBytes < t.rendering.utf8ByteSize then
          .error (.marshal (.resultTooLarge t.rendering.utf8ByteSize Limit.json.maxBytes)) else .ok t.rendering, c') w := by
  have same : String.ofList s.tree.chars = t.rendering := congrArg String.ofList (s.chars_tree t spells)
  have places : t.minified.length ≤ Key.indices :=
    (length_le_utf8ByteSize t.minified).trans (short.le.trans (by decide))
  have steps : s.tree.steps < Act.endless := steps_lt_endless (same ▸ short.le) (by decide)
  obtain ⟨c', written, pristine'⟩ :=
    stringify_ofJson pristine (s.tidy_tree t spells plain places) shallow steps
  rw [same] at written
  exact ⟨c', pristine', encodeState_done written⟩

end Inside

/-- **States keep their meaning.** Let a text of the standard spell a tree of integers that doubles tell apart, with
distinct names none of which is an array index. It is decoded in every context, and if no script gave the prototypes
of objects and of arrays what encoding seeks, which holds in a new context, then what is encoded of the value is the
minified rendering of the tree: itself a text that spells the tree, and not longer than the given one. Only if the
rendering is more than a state may take it is refused, and the refusal tells its size. -/
theorem states_keep_meaning {text : Spaced Spelling} {t : Tree} (spells : text.inner.Spells t) (plain : t.Plain)
    (shallow : text.inner.tree.level ≤ Json.maxDepth) :
    t.rendering.utf8ByteSize ≤ text.text.utf8ByteSize ∧
    (∃ s : Spelling, s.chars = t.minified ∧ s.Spells t) ∧
    (∀ config table c, Context.create config table = .ok c → c.realm.Pristine) ∧
    ∀ c : Context, ∃ (v : Value) (c₁ : Context),
      (∀ (link : Link Script.engine K) w,
        (Inside.decodeState text.text : Inside Script.engine K Value).run c link w = .done (.ok v, c₁) w) ∧
      (c.realm.Pristine → t.rendering.utf8ByteSize < 2 ^ 30 → ∃ c₂ : Context, c₂.realm.Pristine ∧
        ∀ (around : Surroundings Script.engine) (link : Link Script.engine K) w,
          (Inside.encodeState around v).run c₁ link w =
            .done (if Limit.json.maxBytes < t.rendering.utf8ByteSize then
              .error (.marshal (.resultTooLarge t.rendering.utf8ByteSize Limit.json.maxBytes))
            else .ok t.rendering, c₂) w) :=
  ⟨Spaced.utf8ByteSize_rendering spells, text.inner.exists_minified t spells,
    fun _ _ _ => Context.create_pristine, fun c =>
      ⟨_, _, Inside.decodeState_spelled shallow c, fun pristine short =>
        Inside.encodeState_spelled spells plain shallow short pristine⟩⟩

/-- A state with an escape in a name, a zero with a sign, blanks, and members in no order of names. -/
def looseState : Spaced Spelling :=
  let space : Blanks := ⟨[' '], List.forall_mem_singleton.mpr rfl⟩
  let minusZero : Number.Numeral := { Number.Numeral.ofInt 0 with negative := true }
  ⟨space, .object
    [(⟨.none, [.hex '0' '0' '6' '1' 0x61 rfl], space⟩,
      ⟨space, .array [⟨.none, .number minusZero, .none⟩, ⟨space, .number (.ofInt 7), .none⟩] .none, space⟩),
      (⟨.none, [.plain 'A' (by decide) (by decide) (by decide)], .none⟩, ⟨.none, .null, .none⟩)] .none, .none⟩

def looseTree : Tree :=
  .object [(⟨#[0x61]⟩, .array [.integer 0, .integer 7]), (⟨#[0x41]⟩, .null)]

theorem looseState_text : looseState.text = " \x7b\"\\u0061\" : [-0, 7] ,\"A\":null\x7d" := by
  rw [Spaced.text, looseState, Spaced.chars]
  simp only [Spelling.chars, Spelling.itemsChars, Spelling.membersChars]
  decide

theorem looseTree_rendering : looseTree.rendering = "\x7b\"a\":[0,7],\"A\":null\x7d" := by
  rw [Tree.rendering, looseTree]
  simp only [Tree.minified, Tree.itemsMinified, Tree.membersMinified]
  decide

theorem looseState_spells : looseState.inner.Spells looseTree := by
  rw [looseState, looseTree, Spelling.Spells]
  refine ⟨_, rfl, ?_⟩
  simp only [Spelling.MembersSpell, Spelling.Spells, Spelling.ItemsSpell]
  exact ⟨_, _, rfl, ⟨_, rfl, _, _, rfl, ⟨rfl, rfl, by decide, rfl⟩, _, _, rfl, ⟨rfl, rfl, by decide, rfl⟩, rfl⟩,
    _, _, rfl, rfl, rfl⟩

theorem looseTree_plain : looseTree.Plain := by
  rw [looseTree, Tree.Plain]
  refine ⟨by decide, fun m hm => Tree.not_isIndex ?_, ⟨trivial, trivial, trivial⟩, trivial, trivial⟩
  rcases List.mem_pair.mp hm with rfl | rfl
  · exact ⟨0x61, by decide, by decide⟩
  · exact ⟨0x41, by decide, by decide⟩

/-- What a loose spelling comes back as. -/
theorem states_keep_meaning_loose :
    Inspect.alone Script.engine (Inspect.roundTrip " \x7b\"\\u0061\" : [-0, 7] ,\"A\":null\x7d") =
      .ok "\x7b\"a\":[0,7],\"A\":null\x7d" := by
  have shallow : looseState.inner.tree.level ≤ Json.maxDepth := by
    simp [looseState, Spelling.tree, Spelling.membersTrees, Spelling.itemsTrees, Json.level, Json.membersLevel,
      Json.itemsLevel, Json.maxDepth]
  obtain ⟨c, create⟩ : ∃ c, Script.engine.create {} [] = .ok c := ⟨_, rfl⟩
  obtain ⟨-, -, new, each⟩ := states_keep_meaning looseState_spells looseTree_plain shallow
  obtain ⟨v, c₁, decoded, encoded⟩ := each c
  obtain ⟨c₂, -, encoded⟩ := encoded (new _ _ _ (show Context.create {} [] = _ from create)) (by
    rw [looseTree_rendering]
    decide)
  rw [← looseState_text, ← looseTree_rendering, Inspect.alone_roundTrip create (decoded _ _) (encoded _ _ _),
    if_neg (by rw [looseTree_rendering]; decide)]

/-! ## States that do not come back -/

namespace Script

def letters (count : Nat) : Spaced Spelling :=
  ⟨.none, .string (List.replicate count (.plain 'a' (by decide) (by decide) (by decide))), .none⟩

def lettersTree (count : Nat) : Tree := .string ⟨(List.replicate count (unitOf 'a')).toArray⟩

theorem letters_spells (count : Nat) : (letters count).inner.Spells (lettersTree count) := by
  have units (acc : Str) : ((List.replicate count (Piece.plain 'a' (by decide) (by decide) (by decide))).foldl
      Piece.addTo acc).units.toList = acc.units.toList ++ List.replicate count (unitOf 'a') := by
    induction count generalizing acc with
    | zero => exact (List.append_nil _).symm
    | succ count ih =>
      rw [List.replicate_succ, List.foldl_cons, ih, Piece.addTo, units_push, charUnits_of_lt (by decide),
        List.append_assoc, List.replicate_succ, List.singleton_append]
  rw [letters, lettersTree, Spelling.Spells]
  exact congrArg Tree.string (Str.ext_units ((units .empty).trans rfl).symm)

theorem quotedChars_letters (count : Nat) :
    Json.quotedChars (List.replicate count (unitOf 'a')) = List.replicate count 'a' := by
  induction count with
  | zero => rw [List.replicate_zero, Json.quotedChars, List.replicate_zero]
  | succ count ih =>
    have single : ∀ v, (List.replicate count (unitOf 'a')).head? = some v → ¬ (isLead (unitOf 'a') && isTrail v) = true :=
      fun v _ => by rw [show isLead (unitOf 'a') = false from rfl]; simp
    rw [List.replicate_succ, Json.quotedChars_cons single, ih,
      unitChars_unitOf (by decide) (by decide) (by decide) (by decide), List.replicate_succ, List.singleton_append]

theorem minified_letters (count : Nat) : (lettersTree count).minified = '"' :: (List.replicate count 'a' ++ ['"']) := by
  rw [lettersTree, Tree.minified, Json.stringChars, List.toList_toArray, quotedChars_letters]

theorem utf8ByteSize_letters (count : Nat) : (lettersTree count).rendering.utf8ByteSize = count + 2 := by
  have ascii : ∀ c ∈ (lettersTree count).minified, c.toNat < 0x80 := by
    rw [minified_letters]
    intro c hc
    simp only [List.mem_cons, List.mem_append, List.mem_replicate, List.not_mem_nil, or_false] at hc
    rcases hc with rfl | ⟨-, rfl⟩ | rfl <;> decide
  rw [Tree.rendering, String.utf8ByteSize_ofList, utf8Len_ascii ascii, minified_letters]
  simp

theorem letters_text (count : Nat) : (letters count).text = (lettersTree count).rendering := by
  have pieces : piecesChars (List.replicate count (.plain 'a' (by decide) (by decide) (by decide))) =
      List.replicate count 'a' := by
    induction count with
    | zero => rfl
    | succ count ih => rw [List.replicate_succ, piecesChars_cons, ih, List.replicate_succ]; rfl
  rw [Spaced.text, Tree.rendering, minified_letters, Spaced.chars, letters, Spelling.chars, quotedPieces, pieces]
  exact congrArg String.ofList (List.append_nil _)

theorem letters_shallow (count : Nat) : (letters count).inner.tree.level ≤ Json.maxDepth := by
  rw [letters, Spelling.tree, Json.level]
  decide

end Script

theorem letters_refused {count : Nat} (long : Limit.json.maxBytes < count + 2) (short : count + 2 < 2 ^ 30) :
    Inspect.alone Script.engine (Inspect.roundTrip (letters count).text) =
      .error (.marshal (.resultTooLarge (count + 2) Limit.json.maxBytes)) := by
  have size := utf8ByteSize_letters count
  obtain ⟨c, create⟩ : ∃ c, Script.engine.create {} [] = .ok c := ⟨_, rfl⟩
  obtain ⟨c', -, encoded⟩ := Inside.encodeState_spelled (letters_spells count) trivial (letters_shallow count)
    (size.trans_lt short) (Context.create_pristine (show Context.create {} [] = _ from create))
  rw [Inspect.alone_roundTrip create (Inside.decodeState_spelled (letters_shallow count) c _ _) (encoded _ _ _), size,
    if_pos long]

def emptyState : Spaced Spelling := ⟨.none, .object [] .none, .none⟩

theorem emptyState_text : emptyState.text = "\x7b\x7d" := by
  simp only [emptyState, Spaced.text, Spaced.chars, Spelling.chars, Spelling.membersChars]
  decide

theorem emptyState_tree : emptyState.inner.tree = .object [] := by
  rw [emptyState, Spelling.tree, Spelling.membersTrees]

theorem emptyState_shallow : emptyState.inner.tree.level ≤ Json.maxDepth := by
  rw [emptyState_tree, Json.level, Json.membersLevel]
  decide

theorem emptyState_spells : emptyState.inner.Spells (.object []) := by
  rw [emptyState, Spelling.Spells]
  exact ⟨[], rfl, by rw [Spelling.MembersSpell]⟩

theorem emptyState_replaced {r : Realm} (pristine : r.Pristine) (threads : Array Thread) :
    ∃ (v : Value) (c₁ c₂ : Context),
      (∀ (link : Link Script.engine K) w, (Inside.decodeState emptyState.text : Inside Script.engine K Value).run
        ⟨r.replacing, threads⟩ link w = .done (.ok v, c₁) w) ∧
      ∀ (around : Surroundings Script.engine) (link : Link Script.engine K) w,
        (Inside.encodeState around v).run c₁ link w = .done (.ok "false", c₂) w := by
  obtain ⟨c₂, written⟩ := pristine.replacing_stringify threads
  refine ⟨_, _, c₂, Inside.decodeState_spelled emptyState_shallow ⟨r.replacing, threads⟩, fun around link w => ?_⟩
  have short : ¬ Limit.json.maxBytes < "false".utf8ByteSize := by decide
  rw [emptyState_tree, Inside.encodeState_done written, if_neg short]

/-- A minified state of letters that is a byte too long does not come back, and neither does an empty object where
a script gave the prototype of objects what encoding seeks. -/
theorem states_that_do_not_come_back :
    ((letters 10485759).inner.Spells (lettersTree 10485759) ∧ (lettersTree 10485759).Plain ∧
      (letters 10485759).inner.tree.level ≤ Json.maxDepth ∧
      (letters 10485759).text = (lettersTree 10485759).rendering ∧
      Inspect.alone Script.engine (Inspect.roundTrip (letters 10485759).text) =
        .error (.marshal (.resultTooLarge 10485761 10485760))) ∧
    emptyState.inner.Spells (.object []) ∧ (Tree.object []).Plain ∧ emptyState.inner.tree.level ≤ Json.maxDepth ∧
      emptyState.text = "\x7b\x7d" ∧ ∃ (v : Value) (c₁ c₂ : Context),
        (∀ (link : Link Script.engine Inspect.Quiet) w,
          (Inside.decodeState emptyState.text : Inside Script.engine Inspect.Quiet Value).run
            ⟨(Realm.initial 1000).replacing, #[]⟩ link w = .done (.ok v, c₁) w) ∧
        ∀ (around : Surroundings Script.engine) (link : Link Script.engine Inspect.Quiet) w,
          (Inside.encodeState around v).run c₁ link w = .done (.ok "false", c₂) w := by
  have longer : Limit.json.maxBytes < 10485759 + 2 := by decide
  refine ⟨⟨letters_spells _, trivial, letters_shallow _, letters_text _, letters_refused longer (by decide)⟩, ?_⟩
  exact ⟨emptyState_spells, ⟨List.nodup_nil, nofun, trivial⟩, emptyState_shallow, emptyState_text,
    emptyState_replaced (.initial 1000) #[]⟩

end BrainHost
