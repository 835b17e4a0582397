import BrainHost.Document.Toml
import BrainHost.Proofs.Number.Numeral
import BrainHost.Proofs.Text.Class

/-! # Lines of TOML texts

What the reader makes of the lines that a configuration is written in: headers of tables, entries and blank lines.
Each kind of line has a rule that leads from what is read of the lines below it to what is read from it on. -/

namespace BrainHost.Document.Toml

open Number

/-! ## Names -/

/-- A name that needs no quotes. -/
structure BareName (name : String) : Prop where
  filled : name.toList ≠ []
  bare : ∀ c ∈ name.toList, isBare c = true

theorem bareName_iff {name : String} :
    BareName name ↔ (!name.toList.isEmpty && name.toList.all isBare) = true := by
  rw [Bool.and_eq_true, Bool.not_eq_true', List.isEmpty_eq_false_iff, List.all_eq_true]
  exact ⟨fun h => ⟨h.filled, h.bare⟩, fun h => ⟨h.1, h.2⟩⟩

instance (name : String) : Decidable (BareName name) := decidable_of_iff' _ bareName_iff

theorem BareName.cons {name : String} (h : BareName name) :
    ∃ c cs, name.toList = c :: cs ∧ isBare c = true := by
  obtain ⟨c, cs, e⟩ := List.exists_cons_of_ne_nil h.filled
  exact ⟨c, cs, e, h.bare c (e ▸ List.mem_cons_self)⟩

theorem readKeyPart_bare {name : String} (h : BareName name) {rest : List Char}
    (stop : ∀ c, rest.head? = some c → isBare c = false) :
    readKeyPart (name.toList ++ rest) = some (name, rest) := by
  obtain ⟨c, cs, e, bare⟩ := h.cons
  have taken := takeWhile_append_of_stop h.bare stop
  have left := dropWhile_append_of_stop h.bare stop
  unfold readKeyPart
  split
  · next e' =>
    rw [e] at e'
    cases e'
    exact absurd bare (by decide)
  · next e' =>
    rw [e] at e'
    cases e'
    exact absurd bare (by decide)
  · rw [taken, left]
    dsimp only
    rw [List.isEmpty_eq_false_iff.mpr h.filled, String.ofList_toList]
    rfl

theorem skipSpace_cons {c : Char} (h : isSpace c = false) (cs : List Char) : skipSpace (c :: cs) = c :: cs :=
  List.dropWhile_cons_of_neg (by simp [h])

theorem BareName.skipSpace {name : String} (h : BareName name) (rest : List Char) :
    skipSpace (name.toList ++ rest) = name.toList ++ rest := by
  obtain ⟨c, cs, e, bare⟩ := h.cons
  rw [e]
  refine skipSpace_cons ?_ _
  have blank : c ≠ ' ' := ne_of_class bare (by decide)
  have tab : c ≠ '\t' := ne_of_class bare (by decide)
  simp [isSpace, blank, tab]

theorem readKey_bare {name : String} (h : BareName name) {rest : List Char}
    (stop : ∀ c, rest.head? = some c → isBare c = false)
    (last : ∀ c, (skipSpace rest).head? = some c → c ≠ '.') (steps : Nat) :
    readKey (steps + 1) (name.toList ++ rest) = some ([name], skipSpace rest) := by
  unfold readKey
  rw [h.skipSpace, readKeyPart_bare h stop]
  dsimp only [bind, Option.bind]
  split
  · next e => exact absurd rfl (last '.' (by rw [e]; rfl))
  · rfl

/-! ## Between lines -/

theorem skipLines_cons {c : Char} (space : isSpace c = false) (comment : c ≠ '#') (feed : c ≠ '\n') (back : c ≠ '\r')
    (steps : Nat) (cs : List Char) : skipLines (steps + 1) (c :: cs) = some (c :: cs) := by
  have uncommented : skipComment (c :: cs) = some (c :: cs) := by
    unfold skipComment
    split
    · next e => exact absurd (List.cons.inj e).1 comment
    · rfl
  have going_on : skipNewline (c :: cs) = none := by
    unfold skipNewline
    split
    · next e => exact absurd (List.cons.inj e).1 feed
    · next e => exact absurd (List.cons.inj e).1 back
    · rfl
  unfold skipLines
  rw [skipSpace_cons space, uncommented]
  dsimp only [bind, Option.bind]
  rw [going_on]

theorem skipLines_bare {c : Char} (h : isBare c = true) (steps : Nat) (cs : List Char) :
    skipLines (steps + 1) (c :: cs) = some (c :: cs) := by
  have blank : c ≠ ' ' := ne_of_class h (by decide)
  have tab : c ≠ '\t' := ne_of_class h (by decide)
  exact skipLines_cons (by simp [isSpace, blank, tab]) (ne_of_class h (by decide)) (ne_of_class h (by decide))
    (ne_of_class h (by decide)) steps cs

theorem skipRest_newline (rest : List Char) : skipRest ('\n' :: rest) = some rest := rfl

/-! ## Tables under construction -/

namespace Members

variable {members : Members} {name : String}

theorem lookup_concat (fresh : members.lookup name = none) (node : Node) :
    (members ++ [(name, node)]).lookup name = some node := by
  rw [List.lookup_append, fresh]
  simp

theorem put_fresh (fresh : members.lookup name = none) (node : Node) :
    members.put name node = members ++ [(name, node)] := by
  unfold put
  rw [fresh]
  rfl

theorem put_concat (fresh : members.lookup name = none) (old new : Node) :
    Members.put (members ++ [(name, old)]) name new = members ++ [(name, new)] := by
  have others : ∀ m ∈ members, m.1 ≠ name := fun m mem e =>
    absurd (List.lookup_eq_none_iff.mp fresh m mem) (by simp [e])
  have kept : members.map (fun m => if m.1 = name then (m.1, new) else (m.1, m.2)) = members := by
    conv_rhs => rw [← List.map_id members]
    refine List.map_congr_left fun m mem => ?_
    rw [if_neg (others m mem)]
    rfl
  unfold put
  rw [lookup_concat fresh]
  simp [kept]

theorem openTable_fresh (fresh : members.lookup name = none) :
    members.openTable [name] = some (members ++ [(name, .table false false [])]) := by
  unfold openTable
  simp only [List.getLast?_singleton, List.dropLast_singleton, alterHeader, fresh, put_fresh fresh]

theorem define_fresh (fresh : members.lookup name = none) (d : Document) :
    members.define [name] d = some (members ++ [(name, .leaf d)]) := by
  show (if (members.lookup name).isSome then none else some (members.put name (.leaf d))) = _
  rw [fresh, put_fresh fresh]
  rfl

end Members

def Place.under (root : Members) (name : String) (members : Members) : Place :=
  ⟨root ++ [(name, .table false false members)], [name]⟩

theorem Place.define_under {root members : Members} {name key : String} (opened : root.lookup name = none)
    (fresh : members.lookup key = none) (d : Document) :
    (Place.under root name members).define [key] d = some (Place.under root name (members ++ [(key, .leaf d)])) := by
  have changed : Members.alterHeader (Members.define [key] d) [name] (root ++ [(name, .table false false members)]) =
      some (root ++ [(name, .table false false (members ++ [(key, .leaf d)]))]) := by
    unfold Members.alterHeader
    rw [Members.lookup_concat opened]
    dsimp only
    unfold Members.alterHeader
    rw [Members.define_fresh fresh, Option.map_some, Members.put_concat opened]
  unfold Place.define Place.under
  rw [changed]
  rfl

/-! ## Lines -/

/-- The line that opens a table, and the lines below it. -/
def headerLine (name : String) (below : List Char) : List Char := '[' :: (name.toList ++ ']' :: '\n' :: below)

/-- The line that gives a value under a key, and the lines below it. -/
def entryLine (key value : String) (below : List Char) : List Char :=
  key.toList ++ ' ' :: '=' :: ' ' :: (value.toList ++ '\n' :: below)

/-- What is read from a text on, given the place that its entries go to. -/
def Reads (place : Place) (cs : List Char) (members : Members) : Prop :=
  ∀ steps, cs.length < steps → readLines steps place cs = some members

/-- A value, up to the end of its line. -/
structure ValueReads (value : String) (d : Document) : Prop where
  unspaced : ∀ c, value.toList.head? = some c → isSpace c = false
  filled : value.toList ≠ []
  read : ∀ rest, readValue maxNesting (value.toList ++ '\n' :: rest) = some (d, '\n' :: rest)

theorem ValueReads.skipSpace {value : String} {d : Document} (h : ValueReads value d) (rest : List Char) :
    skipSpace (value.toList ++ rest) = value.toList ++ rest := by
  obtain ⟨c, cs, e⟩ := List.exists_cons_of_ne_nil h.filled
  rw [e]
  exact skipSpace_cons (h.unspaced c (by rw [e]; rfl)) _

theorem readEntry_line {key value : String} {d : Document} (named : BareName key) (valued : ValueReads value d)
    (rest : List Char) :
    readEntry (readValue maxNesting) (entryLine key value rest) = some (([key], d), '\n' :: rest) := by
  have stop : ∀ c, (' ' :: '=' :: ' ' :: (value.toList ++ '\n' :: rest)).head? = some c → isBare c = false :=
    forall_head?_cons (by decide)
  have last : ∀ c, (skipSpace (' ' :: '=' :: ' ' :: (value.toList ++ '\n' :: rest))).head? = some c → c ≠ '.' :=
    @forall_head?_cons _ (' ' :: (value.toList ++ '\n' :: rest)) (· ≠ '.') '=' (by decide)
  unfold readEntry entryLine
  rw [readKey_bare named stop last]
  show ((readValue maxNesting (skipSpace (value.toList ++ '\n' :: rest))).bind fun read =>
    some (([key], read.1), read.2)) = _
  rw [valued.skipSpace, valued.read]
  rfl

/-! ## Values -/

theorem endsToken_digit {c : Char} (h : c.isDigit = true) : endsToken c = false := by
  have others : [' ', '\t', '\n', '\r', ',', ']', '\x7d', '#'].all (!·.isDigit) = true := by decide
  have other : ∀ d ∈ [' ', '\t', '\n', '\r', ',', ']', '\x7d', '#'], c ≠ d := fun d mem =>
    ne_of_class h (by simpa using List.all_eq_true.mp others d mem)
  simp only [List.forall_mem_cons] at other
  simp [endsToken, isSpace, other]

theorem isDigits_digits {cs : List Char} (h : Digits cs) (filled : cs ≠ []) : isDigits Char.isDigit cs = true := by
  fun_induction isDigits Char.isDigit cs with
  | case1 => exact absurd rfl filled
  | case2 c => exact h c List.mem_cons_self
  | case3 c rest => exact absurd (h '_' (by simp)) (by decide)
  | case4 c rest more _ ih =>
    rw [h c List.mem_cons_self, ih (fun d mem => h d (List.mem_cons_of_mem _ mem)) more]
    rfl

theorem hasLeadingZero_toDigits (n : Nat) : hasLeadingZero (Nat.toDigits 10 n) = false := by
  by_cases zero : n = 0
  · subst zero
    rfl
  · have head := head?_toDigits zero
    unfold hasLeadingZero
    split
    · next e => exact absurd (by rw [e]; rfl) head
    · rfl

theorem decimalNumber_toDigits (n : Nat) : decimalNumber (Nat.toDigits 10 n) = n := foldl_toDigits n

theorem integer?_toDigits (n : Nat) : integer? (Nat.toDigits 10 n) = some (n : Int) := by
  have digits := digits_toDigits n
  have based : ∀ d rest, d.isDigit = false → Nat.toDigits 10 n ≠ '0' :: d :: rest := fun d rest hd e =>
    absurd (digits d (by rw [e]; simp)) (by simp [hd])
  have unsigned : splitSign (Nat.toDigits 10 n) = (false, Nat.toDigits 10 n) := by
    unfold splitSign
    split
    · next e => exact absurd (digits '-' (by rw [e]; simp)) (by decide)
    · next e => exact absurd (digits '+' (by rw [e]; simp)) (by decide)
    · rfl
  have unbroken : plain (Nat.toDigits 10 n) = Nat.toDigits 10 n :=
    List.filter_eq_self.mpr fun c mem => decide_eq_true (ne_of_class (digits c mem) (by decide))
  unfold integer?
  split
  · next e => exact absurd e (based 'x' _ (by decide))
  · next e => exact absurd e (based 'o' _ (by decide))
  · next e => exact absurd e (based 'b' _ (by decide))
  · rw [unsigned]
    dsimp only
    rw [isDigits_digits digits Nat.toDigits_ne_nil, hasLeadingZero_toDigits, unbroken, decimalNumber_toDigits]
    rfl

theorem readToken_toDigits {n : Nat} (h : n < 2 ^ 64) (rest : List Char) :
    readToken (Nat.toDigits 10 n ++ '\n' :: rest) = some (.number (some n), '\n' :: rest) := by
  have digits := digits_toDigits n
  have going : ∀ c ∈ Nat.toDigits 10 n, (!endsToken c) = true := fun c mem => by
    rw [endsToken_digit (digits c mem)]
    rfl
  have stop : ∀ c, ('\n' :: rest).head? = some c → (!endsToken c) = false := forall_head?_cons (by decide)
  have no_word : ∀ d ds, d.isDigit = false → Nat.toDigits 10 n ≠ d :: ds := fun d ds hd same =>
    absurd (digits d (by rw [same]; exact List.mem_cons_self)) (by simp [hd])
  unfold readToken
  dsimp only
  rw [takeWhile_append_of_stop going stop, dropWhile_append_of_stop going stop, if_neg (no_word _ _ (by decide)),
    if_neg (no_word _ _ (by decide)), integer?_toDigits]
  simp
  omega

theorem readValue_digit {c : Char} (h : c.isDigit = true) (nesting : Nat) (cs : List Char) :
    readValue (nesting + 1) (c :: cs) = readToken (c :: cs) := by
  have other : ∀ d, d.isDigit = false → ∀ rest, c :: cs ≠ d :: rest := fun d hd rest same =>
    ne_of_class h hd (List.cons.inj same).1
  unfold readValue
  split
  · exact absurd ‹_› (other '[' (by decide) _)
  · exact absurd ‹_› (other '\x7b' (by decide) _)
  · exact absurd ‹_› (other '"' (by decide) _)
  · exact absurd ‹_› (other '\'' (by decide) _)
  · rfl

theorem valueReads_number {n : Nat} (h : n < 2 ^ 64) : ValueReads (toString n) (.number (some n)) := by
  have written : (toString n).toList = Nat.toDigits 10 n := by simp
  obtain ⟨c, cs, e⟩ := List.exists_cons_of_ne_nil (Nat.toDigits_ne_nil (n := n) (b := 10))
  have first : c.isDigit = true := digits_toDigits n c (e ▸ List.mem_cons_self)
  refine ⟨?_, by rw [written]; exact Nat.toDigits_ne_nil, fun rest => ?_⟩
  · rw [written, e]
    exact forall_head?_cons (by simp [isSpace, ne_of_class first (show ' '.isDigit = false by decide),
      ne_of_class first (show '\t'.isDigit = false by decide)])
  · rw [written, ← readToken_toDigits h, e]
    exact readValue_digit first _ _

theorem readBasic_plain {cs : List Char} (plain : ∀ c ∈ cs, c ≠ '"' ∧ c ≠ '\\' ∧ isControl c = false)
    (acc rest : List Char) {steps : Nat} (enough : cs.length < steps) :
    readBasic steps acc (cs ++ '"' :: rest) = some (String.ofList (acc.reverse ++ cs), rest) := by
  induction cs generalizing acc steps with
  | nil =>
    obtain ⟨steps, rfl⟩ := Nat.exists_eq_succ_of_ne_zero (Nat.ne_of_gt enough)
    rw [List.append_nil]
    rfl
  | cons c cs ih =>
    obtain ⟨steps, rfl⟩ := Nat.exists_eq_succ_of_ne_zero (Nat.ne_of_gt (Nat.zero_lt_of_lt enough))
    obtain ⟨quote, escape, control⟩ := plain c List.mem_cons_self
    have step : readBasic (steps + 1) acc (c :: (cs ++ '"' :: rest)) =
        readBasic steps (c :: acc) (cs ++ '"' :: rest) := by
      rw [readBasic]
      · simp [control]
      · exact quote
      · exact escape
    rw [List.cons_append, step,
      ih (fun d mem => plain d (List.mem_cons_of_mem _ mem)) _ (Nat.lt_of_succ_lt_succ enough)]
    simp

theorem valueReads_text {text : String}
    (plain : ∀ c ∈ text.toList, c ≠ '"' ∧ c ≠ '\\' ∧ isControl c = false) :
    ValueReads ("\"" ++ text ++ "\"") (.text (some text)) := by
  have written : ("\"" ++ text ++ "\"").toList = '"' :: (text.toList ++ ['"']) := by simp
  refine ⟨?_, by simp, fun rest => ?_⟩
  · rw [written]
    exact forall_head?_cons (by decide)
  · have read : readString ('"' :: (text.toList ++ '"' :: '\n' :: rest)) = some (text, '\n' :: rest) := by
      unfold readString
      split
      · next e =>
        have after := (List.cons.inj e).2
        cases body : text.toList with
        | nil => simp [body] at after
        | cons c cs =>
          rw [body] at after
          exact absurd (List.cons.inj after).1 (plain c (body ▸ List.mem_cons_self)).1
      · next e => exact absurd (List.cons.inj e).1 (by decide)
      · next e =>
        cases e
        rw [readBasic_plain plain [] _ (by simp only [List.length_cons, List.length_append]; omega)]
        simp
      · next e => exact absurd (List.cons.inj e).1 (by decide)
      · next other _ => exact absurd rfl (other _)
    have whole : ("\"" ++ text ++ "\"").toList ++ '\n' :: rest = '"' :: (text.toList ++ '"' :: '\n' :: rest) := by simp
    rw [whole]
    show (readString _).map _ = _
    rw [read]
    rfl

theorem valueReads_flag (b : Bool) : ValueReads (if b then "true" else "false") (.bool b) := by
  cases b <;> exact ⟨by rintro c e; cases e; decide, by decide, fun _ => rfl⟩

namespace Reads

variable {place : Place} {root members out : Members} {rest : List Char} {name key value : String} {d : Document}

theorem of_step {cs : List Char} (h : ∀ steps, cs.length ≤ steps → readLines (steps + 1) place cs = some out) :
    Reads place cs out := by
  intro steps enough
  cases steps with
  | zero => exact absurd enough (Nat.not_lt_zero _)
  | succ steps => exact h steps (Nat.le_of_lt_succ enough)

theorem nil : Reads place [] place.root := of_step fun _ _ => rfl

theorem blank (h : Reads place rest out) : Reads place ('\n' :: rest) out := by
  refine of_step fun steps enough => ?_
  have same := h (steps + 1) (Nat.lt_succ_of_lt enough)
  unfold readLines at same ⊢
  exact same

theorem header (named : BareName name) (fresh : place.root.lookup name = none)
    (h : Reads (Place.under place.root name []) rest out) :
    Reads place (headerLine name rest) out := by
  refine of_step fun steps enough => ?_
  have below : rest.length < steps := by
    simp only [headerLine, List.length_cons, List.length_append] at enough
    omega
  obtain ⟨c, cs, e, bare⟩ := named.cons
  have stop : ∀ c, (']' :: '\n' :: rest).head? = some c → isBare c = false := forall_head?_cons (by decide)
  have last : ∀ c, (skipSpace (']' :: '\n' :: rest)).head? = some c → c ≠ '.' := forall_head?_cons (by decide)
  have key := readKey_bare named stop last (name.toList ++ ']' :: '\n' :: rest).length
  rw [e] at key
  unfold readLines headerLine
  rw [e]
  rw [skipLines_cons (by decide) (by decide) (by decide) (by decide)]
  dsimp only [bind, Option.bind]
  split
  · next e' => exact nomatch e'
  · next e' =>
    cases e'
    exact absurd bare (by decide)
  · next e' =>
    cases e'
    rw [key]
    dsimp only
    rw [skipSpace_cons (by decide), skipSpace_cons (by decide), Members.openTable_fresh fresh]
    exact h steps below
  · next other => exact absurd rfl (other _)

theorem entry (opened : root.lookup name = none) (fresh : members.lookup key = none) (named : BareName key)
    (valued : ValueReads value d)
    (h : Reads (Place.under root name (members ++ [(key, .leaf d)])) rest out) :
    Reads (Place.under root name members) (entryLine key value rest) out := by
  refine of_step fun steps enough => ?_
  have below : rest.length < steps := by
    simp only [entryLine, List.length_cons, List.length_append] at enough
    omega
  obtain ⟨c, cs, e, bare⟩ := named.cons
  have read := readEntry_line named valued rest
  unfold entryLine at read ⊢
  rw [e] at read ⊢
  unfold readLines
  rw [List.cons_append, skipLines_bare bare]
  dsimp only [bind, Option.bind]
  split
  · next e' => exact nomatch e'
  · next e' => exact absurd ((List.cons.inj e').1 ▸ bare) (by decide)
  · next e' => exact absurd ((List.cons.inj e').1 ▸ bare) (by decide)
  · rw [← List.cons_append, read]
    dsimp only
    rw [Place.define_under opened fresh]
    dsimp only
    rw [skipRest_newline]
    exact h steps below

end Reads

theorem Reads.ofToml? {text : String} {members : Members} (h : Reads {} text.toList members)
    (unmarked : text.toList.head? ≠ some '\uFEFF') :
    ofToml? text = some (.table (Node.membersToDocument members)) := by
  unfold Document.ofToml?
  split
  · next e => exact absurd (by rw [e]; rfl) unmarked
  · show (readLines (text.toList.length + 1) {} text.toList).map _ = _
    rw [h _ (Nat.lt_succ_self _)]
    rfl

end BrainHost.Document.Toml
