import BrainHost.Proofs.Boundary.Buffer
import BrainHost.Proofs.Boundary.Results
import BrainHost.Proofs.Script.Accessor

/-! # Strings of actors through C

A native getter writes bytes into the buffer that it is handed, and what is read of them are the characters
before the first NUL. The buffer is blank, so that a getter need not write a NUL, and a string that the host
keeps as bytes comes back as it was set. -/

namespace BrainHost

namespace Boundary

variable {E : Engine} {K : HostKind}

/-- The bytes of a full buffer that are read: those before the first NUL, which stands at the end at the latest. -/
def told (bytes : List UInt8) : List UInt8 := (bytes.take (bufferSize - 1)).takeWhile (· ≠ 0)

theorem readBack_filled {buffer : ByteArray} (h : buffer.size = bufferSize) :
    readBack (.filled buffer) = Text.lossy (told buffer.data.toList) := by
  have front : (buffer.extract 0 (buffer.size - 1)).data.toList = buffer.data.toList.take (bufferSize - 1) := by
    rw [h]
    simp
  rw [readBack, filledText, Text.toList_data, upToNul_toList, front, told]

theorem blankBuffer_toList : blankBuffer.data.toList = List.replicate bufferSize 0 := by
  rw [blankBuffer, zeros, Array.toList_replicate]

theorem blankBuffer_size : blankBuffer.size = bufferSize := by
  rw [← ByteArray.size_data, ← Array.length_toList, blankBuffer_toList, List.length_replicate]

theorem told_blank {bytes : List UInt8} (hbytes : ∀ b ∈ bytes, decide (b ≠ 0) = true)
    (hlength : bytes.length ≤ bufferSize - 1) (count : Nat) : told (bytes ++ List.replicate count 0) = bytes := by
  rw [told, List.take_append, List.take_of_length_le hlength, List.takeWhile_append_of_pos hbytes, List.take_replicate]
  have ends : (List.replicate (min (bufferSize - 1 - bytes.length) count) (0 : UInt8)).takeWhile (· ≠ 0) = [] := by
    rw [List.takeWhile_replicate]
    rfl
  rw [ends, List.append_nil]

/-! ## Hosts that keep bytes -/

/-- A host keeps the bytes of each field of each actor that are set, and writes them back without a NUL. -/
structure Storing (link : Link E K) (stored : K.State → Nat → Nat → List UInt8) : Prop where
  stores : ∀ actor field text w, ∃ reply v, link (.setField actor field (.string text)) w = .done reply v ∧
    stored v.host actor field = text.toUTF8.data.toList ∧ v.hooks = w.hooks ∧ v.boundary = w.boundary
  fills : ∀ actor field buffer w, ∃ bytes v, link (.fillString actor field buffer) w = .done (.filled bytes) v ∧
    bytes.data.toList =
      (stored w.host actor field).take buffer.size ++ buffer.data.toList.drop (stored w.host actor field).length

section

variable {link : Link E K} {stored : K.State → Nat → Nat → List UInt8} {text : String} {w : World E K}
  {actor field : Nat}

theorem relay_setField (h : ∀ c ∈ text.toList, 0 < c.toNat) :
    relay link (.setField actor field (.string text)) w = link (.setField actor field (.string text)) w := by
  show forward [text] _ _ _ link w = _
  unfold forward
  rw [List.any_cons, hasNul_of_positive h, List.any_nil]
  rfl

theorem Storing.relay_getField (h : Storing link stored)
    (hstored : stored w.host actor field = text.toUTF8.data.toList) (htext : ∀ c ∈ text.toList, 0 < c.toNat)
    (hsize : text.utf8ByteSize ≤ bufferSize - 1) (hbuffer : Spare w.boundary.buffer ∨ w.boundary.buffer = none) :
    ∃ v, relay link (.getField .string actor field) w = .done (.value (.string text)) v := by
  obtain ⟨bytes, v, hfills, hbytes⟩ := h.fills actor field blankBuffer (lending w)
  have kept : stored (lending w).host actor field = text.toUTF8.data.toList := hstored
  have length : text.toUTF8.data.toList.length ≤ bufferSize - 1 := hsize
  rw [kept, blankBuffer_size, List.take_of_length_le (Nat.le_trans length (Nat.sub_le _ _)), blankBuffer_toList,
    List.drop_replicate] at hbytes
  have size : bytes.size = bufferSize := by
    rw [← ByteArray.size_data, ← Array.length_toList, hbytes, List.length_append, List.length_replicate]
    omega
  have back : readBack (.filled bytes) = text := by
    rw [readBack_filled size, hbytes, told_blank (nonzero_of_positive htext) length, Text.lossy_toUTF8]
  refine ⟨returned w.boundary.buffer v, ?_⟩
  change readString actor field link w = _
  rw [readString_apply hbuffer, hfills, Outcome.bind_done, back]

end

end Boundary

namespace Script

/-- A script's call of an accessor of strings. -/
def accessing (direction : Direction) (this : Value) (args : Array Value) (newTarget : Value) (context : Context) :
    Run Context Value (Context × Except Value Value) :=
  context.run (callNative (.capability (.field direction .string)) this args newTarget)

section

variable {K : HostKind} {link : Link engine K} {args : Array Value} (this newTarget : Value) (context : Context)
  (s : Surroundings engine)

theorem carryOut_accessing {direction : Direction} {callback : Callback} {reply : BrainHost.Reply} {value : Value}
    {w v : World engine K} (hreaches : Reaches w.hooks args.toList direction .string callback)
    (hlink : link callback w = .done reply v)
    (hends : ∀ k, callField direction .string args context.realm =
        .ask (.host (.field direction .string (args.toList.map Argument.of))) context.realm k →
      k (.answered (answered direction reply)) context.realm = .ok value context.realm) :
    BrainHost.Act.carryOut s (accessing direction this args newTarget context) link w =
      .done (context, .ok value) (settled direction reply v) := by
  obtain ⟨k, hk, -⟩ := callField_eq direction .string args context.realm
  obtain ⟨resume, hask, hresume⟩ := Context.run_host (m := callField direction .string args) hk
  have asked : accessing direction this args newTarget context =
      .ask (.field direction .string (args.toList.map Argument.of))
        (Machine.abandoned context.threads context.realm) resume := hask
  have served : BrainHost.Act.serve s (.field direction .string (args.toList.map Argument.of)) link w =
      .done (answered direction reply) (settled direction reply v) := by
    refine (accessField_of_reaches hreaches).trans ?_
    rw [hlink]
    rfl
  have ended := (hresume _).1 _ _ (hends k hk)
  rw [asked]
  exact BrainHost.Act.bind_eq_done.mpr ⟨_, _, served, ended ▸ rfl⟩

theorem setActorString_apply {callback : Callback} {reply : BrainHost.Reply} {w v : World engine K}
    (hreaches : Reaches w.hooks args.toList .set .string callback) (hset : link callback w = .done reply v) :
    BrainHost.Act.carryOut s (accessing .set this args newTarget context) link w =
      .done (context, .ok .undefined) v := by
  refine carryOut_accessing this newTarget context s hreaches hset fun k hk => ?_
  obtain ⟨k', hk', hnone, -⟩ := callField_eq .set .string args context.realm
  cases hk.symm.trans hk'
  exact hnone

theorem getActorString_apply {actor field : Nat} {text : String} {w v : World engine K}
    (hreaches : Reaches w.hooks args.toList .get .string (.getField .string actor field))
    (hread : link (.getField .string actor field) w = .done (.value (.string text)) v) :
    BrainHost.Act.carryOut s (accessing .get this args newTarget context) link w =
      .done (context, .ok (.string (.ofString (if text.utf8ByteSize ≤ Limit.actorString.maxBytes then text else ""))))
        (settled .get (.value (.string text)) v) := by
  refine carryOut_accessing this newTarget context s hreaches hread fun k hk => ?_
  cases hk
  rfl

end

end Script

namespace Boundary

open Script

theorem Storing.returns {K : HostKind} {link : Link engine K} {stored : K.State → Nat → Nat → List UInt8}
    (h : Storing link stored) {w : World engine K} {actor field : Nat} {str : Str} {text : String}
    {setting getting : Array Value}
    (hset : Reaches w.hooks setting.toList .set .string (.setField actor field (.string text)))
    (hget : Reaches w.hooks getting.toList .get .string (.getField .string actor field))
    (hstr : str.toString? = some text) (htext : ∀ c ∈ text.toList, 0 < c.toNat)
    (hsize : text.utf8ByteSize ≤ bufferSize - 1) (hbuffer : Spare w.boundary.buffer ∨ w.boundary.buffer = none)
    (this newTarget : Value) (context : Context) (s : Surroundings engine) :
    ∃ u v,
      BrainHost.Act.carryOut s (accessing .set this setting newTarget context) (relay link) w =
        .done (context, .ok .undefined) u ∧
      BrainHost.Act.carryOut s (accessing .get this getting newTarget context) (relay link) u =
        .done (context, .ok (.string str)) v := by
  obtain ⟨reply, u, hkeeps, hstored, hhooks, hboundary⟩ := h.stores actor field text w
  have sets : relay link (.setField actor field (.string text)) w = .done reply u :=
    (relay_setField htext).trans hkeeps
  obtain ⟨v, hread⟩ := h.relay_getField hstored htext hsize (hboundary ▸ hbuffer)
  have fits : text.utf8ByteSize ≤ Limit.actorString.maxBytes := Nat.le_trans hsize (Nat.sub_le _ _)
  have gets := getActorString_apply this newTarget context s (hhooks ▸ hget) hread
  rw [if_pos fits, ← Str.eq_ofString hstr] at gets
  exact ⟨u, _, setActorString_apply this newTarget context s hset sets, gets⟩

/-- **Strings of actors through C.** Whatever calls native code makes of the boundary, from inside its functions
and to any depth, every getter of strings that runs was handed a blank buffer of full size, and while none runs
the buffer is unused or blank. A read gives the characters of the bytes before the first NUL, the last byte
counting as one, and leaves the buffer blank; a script gets them unless they are too long. So a text without a
NUL that leaves room for one comes back to scripts from a host that keeps its bytes. -/
theorem actor_strings_through_c {E : Engine} {S : Type} {K : HostKind} :
    (∀ (host : Callback → Code S) (depth : Nat) (code : Code S) {w : World E (Vigilant S)}, Unread w →
      (∀ v, code.vigilant (guarding host depth) w ≠ .fault v) ∧
      (code.vigilant (guarding host depth) w).Ends fun v =>
        (∀ g ∈ v.host.glimpses, Clean g.running g.buffer) ∧ Spare v.boundary.buffer) ∧
    (∀ (link : Link E K) {w : World E K} (actor field : Nat),
      Spare w.boundary.buffer ∨ w.boundary.buffer = none →
        relay link (.getField .string actor field) w =
          (link (.fillString actor field blankBuffer) (lending w)).bind fun reply v =>
            .done (.value (.string (readBack reply))) (returned w.boundary.buffer v)) ∧
    (∀ {buffer : ByteArray}, buffer.size = bufferSize →
      readBack (.filled buffer) = Text.lossy (told buffer.data.toList)) ∧
    ∀ (link : Link engine K) (this newTarget : Value) (context : Context) (s : Surroundings engine),
      (∀ (getting : Array Value) {actor field : Nat} {text : String} {w v : World engine K},
        Reaches w.hooks getting.toList .get .string (.getField .string actor field) →
        link (.getField .string actor field) w = .done (.value (.string text)) v →
          BrainHost.Act.carryOut s (accessing .get this getting newTarget context) link w =
            .done (context,
                .ok (.string (.ofString (if text.utf8ByteSize ≤ Limit.actorString.maxBytes then text else ""))))
              (settled .get (.value (.string text)) v)) ∧
      ∀ {stored : K.State → Nat → Nat → List UInt8}, Storing link stored →
        ∀ (setting getting : Array Value) {actor field : Nat} {str : Str} {text : String} {w : World engine K},
        Reaches w.hooks setting.toList .set .string (.setField actor field (.string text)) →
        Reaches w.hooks getting.toList .get .string (.getField .string actor field) →
        str.toString? = some text → (∀ c ∈ text.toList, 0 < c.toNat) → text.utf8ByteSize ≤ bufferSize - 1 →
        Spare w.boundary.buffer ∨ w.boundary.buffer = none →
          ∃ u v,
            BrainHost.Act.carryOut s (accessing .set this setting newTarget context) (relay link) w =
              .done (context, .ok .undefined) u ∧
            BrainHost.Act.carryOut s (accessing .get this getting newTarget context) (relay link) u =
              .done (context, .ok (.string str)) v := by
  refine ⟨fun host depth code w h => ?_, fun link w actor field h => readString_apply h actor field link,
    fun h => readBack_filled h, fun link this newTarget context s => ⟨fun getting _ _ _ _ _ hget hread => ?_,
    fun hstoring => ?_⟩⟩
  · refine ⟨code.vigilant_ne_fault _ w, ?_⟩
    refine (vigil.code code _ (guarding_admits host depth) w).mono fun v hv => ?_
    obtain ⟨guarded, hrunning⟩ := hv h.guarded
    refine ⟨guarded.past, guarded.now.outside ?_⟩
    rw [hrunning, h.running]
    rfl
  · exact getActorString_apply this newTarget context s hget hread
  · intro setting getting actor field str text w hset hget hstr htext hsize hbuffer
    exact hstoring.returns hset hget hstr htext hsize hbuffer this newTarget context s

def readingEngine : Engine :=
  let reads {α : Type} (c : List String) (a : α) : Run (List String) String (List String × Except String α) :=
    .ask (.field .get .string [.number 1, .number 2]) c fun _ => .done (c, .ok a)
  { notingEngine with evaluate := fun _ _ c => reads c "", call := fun _ _ c => reads c () }

def reading : World readingEngine (Vigilant Unit) where
  hooks := ⟨[.getter .string]⟩
  brains := #[{ context := some [], source := "", bridge := 0, updateAgent := "", maxPendingJobs := none }]
  registry := [("a", 0)]
  life := some ⟨"", some []⟩
  host := { own := () }

/-- A getter that runs a script, which reads a string in turn. -/
def curious : Callback → Code Unit := fun _ => .call (.evaluate (some ⟨#[97]⟩)) fun _ => .finish .none

def slot : Link engine ⟨List UInt8, Empty⟩ := fun callback w =>
  match callback with
  | .setField _ _ (.string text) => .done .none { w with host := text.toUTF8.data.toList }
  | .fillString _ _ buffer =>
    .done (.filled ⟨(w.host.take buffer.size ++ buffer.data.toList.drop w.host.length).toArray⟩) w
  | _ => .done .none w

theorem slot_storing : Storing slot fun bytes _ _ => bytes where
  stores _ _ _ _ := ⟨_, _, rfl, rfl, rfl, rfl⟩
  fills _ _ _ _ := ⟨_, _, rfl, rfl⟩

def slotted : World engine ⟨List UInt8, Empty⟩ := { hooks := ⟨[.setter .string, .getter .string]⟩, host := [] }

def lettered : Link engine ⟨List UInt8, Empty⟩ := fun _ w => .done (.value (.string "a")) w

/-- A getter that runs inside another one finds the buffer blank. A field of which nothing was set is read as
empty, and `"a"` comes back from the slot. -/
theorem actor_strings_through_c_curious :
    let run := (Code.call (.update (some ⟨#[97]⟩) (some ⟨#[98]⟩) (some ⟨#[49]⟩) false) fun _ => .finish .none).vigilant
      (guarding curious 2) reading
    Unread reading ∧
    run.Ends (fun v => (∀ g ∈ v.host.glimpses, Clean g.running g.buffer) ∧ Spare v.boundary.buffer ∧
      ∃ g ∈ v.host.glimpses, g.running.length = 2) ∧
    readBack (.filled blankBuffer) = "" ∧
    relay slot (.getField .string 1 2) slotted =
      (slot (.fillString 1 2 blankBuffer) (lending slotted)).bind (fun reply v =>
        .done (.value (.string (readBack reply))) (returned slotted.boundary.buffer v)) ∧
    (∃ v, BrainHost.Act.carryOut {} (accessing .get .undefined #[.number 1, .number 2] .undefined ⟨{}, #[]⟩)
      lettered slotted = .done (⟨{}, #[]⟩, .ok (.string (.ofString "a"))) v) ∧
    ∃ u v,
      BrainHost.Act.carryOut {} (accessing .set .undefined #[.number 1, .number 2, .string ⟨#[97]⟩] .undefined ⟨{}, #[]⟩)
        (relay slot) slotted = .done (⟨{}, #[]⟩, .ok .undefined) u ∧
      BrainHost.Act.carryOut {} (accessing .get .undefined #[.number 1, .number 2] .undefined ⟨{}, #[]⟩)
        (relay slot) u = .done (⟨{}, #[]⟩, .ok (.string ⟨#[97]⟩)) v := by
  intro run
  have unread : Unread reading := ⟨rfl, rfl, .inl rfl⟩
  have one : (Value.number 1).Numbers 1 :=
    Value.numbers_of_bounds (2 ^ 52) (-52) rfl (by norm_num) (by norm_num) (by norm_num)
  have two : (Value.number 2).Numbers 2 :=
    Value.numbers_of_bounds (2 ^ 52) (-51) rfl (by norm_num) (by norm_num) (by norm_num)
  have gets : Reaches slotted.hooks [.number 1, .number 2] .get .string (.getField .string 1 2) :=
    .get rfl rfl one two (.whole rfl)
  obtain ⟨runs, -, -, -⟩ := actor_strings_through_c (E := readingEngine) (S := Unit) (K := ⟨List UInt8, Empty⟩)
  obtain ⟨-, reads, back, scripts⟩ := actor_strings_through_c (E := engine) (S := Unit) (K := ⟨List UInt8, Empty⟩)
  refine ⟨unread, ?_, ?_, reads slot 1 2 (.inl (.inl rfl)), ?_, ?_⟩
  · have nested : run.Ends fun v => ∃ g ∈ v.host.glimpses, g.running.length = 2 := by decide +kernel
    exact ((runs curious 2 _ unread).2.and nested).mono fun v hv => ⟨hv.1.1, hv.1.2, hv.2⟩
  · rw [back blankBuffer_size, blankBuffer_toList]
    have nothing : told ([] ++ List.replicate bufferSize 0) = [] := told_blank (by simp) (Nat.zero_le _) bufferSize
    exact congrArg Text.lossy nothing
  · have fits : "a".utf8ByteSize ≤ Limit.actorString.maxBytes := by decide
    have told := (scripts lettered .undefined .undefined ⟨{}, #[]⟩ {}).1 #[.number 1, .number 2] (w := slotted) gets rfl
    rw [if_pos fits] at told
    exact ⟨_, told⟩
  · have text : (⟨#[97]⟩ : Str).toString? = some "a" := rfl
    exact (scripts slot .undefined .undefined ⟨{}, #[]⟩ {}).2 slot_storing #[.number 1, .number 2, .string ⟨#[97]⟩]
      #[.number 1, .number 2] (w := slotted) (.set rfl rfl one two (.text rfl text)) gets text (by simp) (by decide)
      (.inl (.inl rfl))

end Boundary

end BrainHost
