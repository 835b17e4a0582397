import BrainHost.Document.Json
import BrainHost.Proofs.Json.Written
import BrainHost.Proofs.Text.Class

/-! # Reading numbers

The numbers that the strict reader admits are the numerals. The engine reads each of them as its
double, and both readers stop where a numeral ends. -/

namespace BrainHost.Script

open Number Document

/-- What may follow a value: a blank, a comma, the end of a container or the end of the text. -/
def AfterValue (cs : List Char) : Prop :=
  ∀ c, cs.head? = some c → c = ',' ∨ c = ']' ∨ c = '}' ∨ isJsonBlank c = true

theorem AfterValue.nil : AfterValue [] := by intro c h; cases h

theorem AfterValue.cons {c : Char} {cs : List Char} (h : c = ',' ∨ c = ']' ∨ c = '}') : AfterValue (c :: cs) := by
  intro d hd
  injection hd with hd
  subst hd
  rcases h with h | h | h
  · exact .inl h
  · exact .inr (.inl h)
  · exact .inr (.inr (.inl h))

theorem AfterValue.cases {cs : List Char} (h : AfterValue cs) :
    cs = [] ∨ ∃ c rest, cs = c :: rest ∧ c ∈ [',', ']', '}', ' ', '\n', '\t', '\r'] := by
  cases cs with
  | nil => exact .inl rfl
  | cons c rest =>
    refine .inr ⟨c, rest, rfl, ?_⟩
    have := h c rfl
    simp only [isJsonBlank, Bool.or_eq_true, decide_eq_true_eq] at this
    simp only [List.mem_cons, List.not_mem_nil, or_false]
    tauto

theorem AfterValue.head_false {cs : List Char} (h : AfterValue cs) {p : Char → Bool}
    (hp : ∀ c ∈ [',', ']', '}', ' ', '\n', '\t', '\r'], p c = false) : ∀ c, cs.head? = some c → p c = false := by
  intro c hc
  rcases h.cases with rfl | ⟨d, rest, rfl, hd⟩
  · cases hc
  · injection hc with hc
    subst hc
    exact hp d hd

/-! ## The strict reader -/

section Strict

variable {ds cs rest : List Char}

theorem readDigits_append (hd : Digits ds) (ne : ds ≠ []) (stop : ∀ c, rest.head? = some c → c.isDigit = false) :
    readDigits (ds ++ rest) = some (ds, rest) := by
  unfold readDigits
  dsimp only
  rw [takeWhile_append_of_stop hd stop, dropWhile_append_of_stop hd stop, if_neg (by simp [ne])]

theorem readDigits_eq_some (h : readDigits cs = some (ds, rest)) : cs = ds ++ rest ∧ Digits ds ∧ ds ≠ [] := by
  unfold readDigits at h
  dsimp only at h
  split at h
  · cases h
  · rename_i ne
    injection h with h
    injection h with hd hr
    subst hd hr
    exact ⟨List.takeWhile_append_dropWhile.symm, fun _ => List.mem_takeWhile_imp, by simpa using ne⟩

theorem readWhole_append (n : Numeral) (stop : ∀ c, rest.head? = some c → c.isDigit = false) :
    readWhole (n.whole ++ rest) = some (n.whole, rest) := by
  by_cases zero : n.whole.head? = some '0'
  · rw [n.lead zero, List.singleton_append, readWhole]
    cases rest with
    | nil => rfl
    | cons c rest => rw [if_neg (by simp [stop c rfl])]
  · have general : readWhole (n.whole ++ rest) = readDigits (n.whole ++ rest) := by
      unfold readWhole
      split
      · rename_i tail e
        exfalso
        apply zero
        have same : (n.whole ++ rest).head? = n.whole.head? := List.head?_append_of_ne_nil _ n.whole_ne
        rw [← same, e, List.head?_cons]
      · rfl
    rw [general, readDigits_append n.isWhole n.whole_ne stop]

theorem readWhole_eq_some (h : readWhole cs = some (ds, rest)) :
    cs = ds ++ rest ∧ Digits ds ∧ ds ≠ [] ∧ (ds.head? = some '0' → ds = ['0']) := by
  unfold readWhole at h
  split at h
  · split at h
    · cases h
    · injection h with h
      injection h with hd hr
      subst hd hr
      exact ⟨rfl, digits_replicate 1, by simp, fun _ => rfl⟩
  · rename_i other
    obtain ⟨hcs, hd, ne⟩ := readDigits_eq_some h
    refine ⟨hcs, hd, ne, fun zero => ?_⟩
    obtain ⟨c, ds, rfl⟩ := List.exists_cons_of_ne_nil ne
    injection zero with zero
    exact absurd hcs (zero ▸ other (ds ++ rest))

theorem readFraction_append (n : Numeral) (stop : ∀ c, rest.head? = some c → c.isDigit = false ∧ c ≠ '.') :
    ∃ has, readFraction (n.pointed ++ rest) = some (has, rest) := by
  unfold Numeral.pointed
  split
  · refine ⟨false, ?_⟩
    unfold readFraction
    rw [List.nil_append]
    split
    · exact absurd rfl (stop '.' rfl).2
    · rfl
  · rename_i ne
    refine ⟨true, ?_⟩
    rw [List.cons_append, readFraction, readDigits_append n.isFraction ne fun c hc => (stop c hc).1]
    rfl

theorem readFraction_eq_some {has : Bool} (h : readFraction cs = some (has, rest)) :
    ∃ ds, Digits ds ∧ cs = (if ds = [] then [] else '.' :: ds) ++ rest := by
  unfold readFraction at h
  split at h
  · obtain ⟨⟨ds, after⟩, hd, e⟩ := Option.map_eq_some_iff.mp h
    injection e with _ e
    subst e
    obtain ⟨rfl, isDigits, ne⟩ := readDigits_eq_some hd
    exact ⟨ds, isDigits, by rw [if_neg ne]; rfl⟩
  · injection h with h
    injection h with _ h
    subst h
    exact ⟨[], digits_replicate 0, by simp⟩

section Sign

variable {p : Power} {tail : List Char}

theorem digits_ne_cons {ds : List Char} {c : Char} (hd : Digits ds) (ne : ds ≠ []) (hc : c.isDigit = false) :
    ds ++ rest ≠ c :: tail := by
  intro e
  obtain ⟨d, ds, rfl⟩ := List.exists_cons_of_ne_nil ne
  injection e with e
  rw [← e, hd d (by simp)] at hc
  cases hc

theorem sign_append_eq_plus (h : p.sign ++ (p.digits ++ rest) = '+' :: tail) : tail = p.digits ++ rest := by
  rcases p.sign_cases with e | e | e <;> rw [e] at h
  · rw [List.nil_append] at h
    exact absurd h (digits_ne_cons p.isDigits p.digits_ne rfl)
  · injection h with _ h
    exact h.symm
  · cases h

theorem sign_append_eq_minus (h : p.sign ++ (p.digits ++ rest) = '-' :: tail) : tail = p.digits ++ rest := by
  rcases p.sign_cases with e | e | e <;> rw [e] at h
  · rw [List.nil_append] at h
    exact absurd h (digits_ne_cons p.isDigits p.digits_ne rfl)
  · cases h
  · injection h with _ h
    exact h.symm

theorem sign_eq_nil (notPlus : ∀ tail, p.sign ++ (p.digits ++ rest) = '+' :: tail → False)
    (notMinus : ∀ tail, p.sign ++ (p.digits ++ rest) = '-' :: tail → False) : p.sign = [] := by
  rcases p.sign_cases with e | e | e <;> rw [e] at notPlus notMinus ⊢
  · exact (notPlus _ rfl).elim
  · exact (notMinus _ rfl).elim

end Sign

theorem readExponent_append (n : Numeral) (after : AfterValue rest) :
    ∃ has, readExponent (n.tail ++ rest) = some (has, rest) := by
  have stop := after.head_false (p := fun c => c.isDigit || c == 'e' || c == 'E')
    (List.all_iff_forall_prop.mp (by decide))
  unfold Numeral.tail
  cases hp : n.power with
  | none =>
    refine ⟨false, ?_⟩
    cases rest with
    | nil => rfl
    | cons c rest =>
      have := stop c rfl
      simp only [Bool.or_eq_false_iff, beq_eq_false_iff_ne] at this
      simp [readExponent, this.1.2, this.2]
  | some p =>
    refine ⟨true, ?_⟩
    have mark : (p.mark = 'e' || p.mark = 'E') = true := by rcases p.mark_eq with e | e <;> simp [e]
    have digits : readDigits (p.digits ++ rest) = some (p.digits, rest) := by
      apply readDigits_append p.isDigits p.digits_ne
      intro c hc
      have := stop c hc
      simp only [Bool.or_eq_false_iff] at this
      exact this.1.1
    simp only [Option.map_some, Option.getD_some, Power.chars, List.cons_append, List.append_assoc]
    unfold readExponent
    dsimp only
    rw [if_pos mark]
    split
    · rename_i e
      rw [sign_append_eq_plus e, digits]
      rfl
    · rename_i e
      rw [sign_append_eq_minus e, digits]
      rfl
    · rename_i notPlus notMinus
      have plain : p.sign = [] := sign_eq_nil notPlus notMinus
      rw [plain, List.nil_append, digits]
      rfl

theorem readExponent_eq_some {has : Bool} (h : readExponent cs = some (has, rest)) :
    ∃ power : Option Power, cs = (power.map Power.chars).getD [] ++ rest := by
  unfold readExponent at h
  split at h
  · rename_i c tail
    split at h
    · rename_i mark
      simp only [Bool.or_eq_true, decide_eq_true_eq] at mark
      have build (minus : Option Bool) (body : List Char)
          (h : (readDigits body).map (fun x => (true, x.2)) = some (has, rest)) :
          ∃ p : Power, p.mark = c ∧ p.minus = minus ∧ body = p.digits ++ rest := by
        obtain ⟨⟨ds, after⟩, hd, e⟩ := Option.map_eq_some_iff.mp h
        injection e with _ e
        subst e
        obtain ⟨rfl, isDigits, ne⟩ := readDigits_eq_some hd
        exact ⟨⟨c, minus, ds, mark, ne, isDigits⟩, rfl, rfl, rfl⟩
      split at h
      · obtain ⟨p, rfl, minus, rfl⟩ := build (some false) _ h
        exact ⟨some p, by simp [Power.chars, Power.sign, minus]⟩
      · obtain ⟨p, rfl, minus, rfl⟩ := build (some true) _ h
        exact ⟨some p, by simp [Power.chars, Power.sign, minus]⟩
      · obtain ⟨p, rfl, minus, rfl⟩ := build none _ h
        exact ⟨some p, by simp [Power.chars, Power.sign, minus]⟩
    · injection h with h
      injection h with _ h
      subst h
      exact ⟨none, rfl⟩
  · injection h with h
    injection h with _ h
    subst h
    exact ⟨none, rfl⟩

theorem chars_append (n : Numeral) (rest : List Char) :
    n.chars ++ rest = n.sign ++ (n.whole ++ (n.pointed ++ (n.tail ++ rest))) := by
  simp only [Numeral.chars, List.append_assoc]

theorem stop_tail (n : Numeral) (after : AfterValue rest) :
    ∀ c, (n.tail ++ rest).head? = some c → c.isDigit = false ∧ c ≠ '.' := by
  intro c hc
  unfold Numeral.tail at hc
  cases hp : n.power with
  | none =>
    rw [hp] at hc
    have := after.head_false (p := fun c => c.isDigit || c == '.')
      (List.all_iff_forall_prop.mp (by decide)) c hc
    simpa using this
  | some p =>
    rw [hp] at hc
    injection hc with hc
    rcases p.mark_eq with e | e <;> rw [← hc, e] <;> decide

theorem stop_pointed (n : Numeral) (after : AfterValue rest) :
    ∀ c, (n.pointed ++ (n.tail ++ rest)).head? = some c → c.isDigit = false := by
  intro c hc
  unfold Numeral.pointed at hc
  split at hc
  · exact (stop_tail n after c hc).1
  · injection hc with hc
    rw [← hc]
    rfl

/-- Reads a number after its sign. -/
def readUnsigned (negative : Bool) (cs : List Char) : Option (Document × List Char) := do
  let (digits, cs) ← readWhole cs
  let (hasFraction, cs) ← readFraction cs
  let (hasExponent, cs) ← readExponent cs
  if hasFraction || hasExponent || digits.length > maxIntegerDigits then some (.number none, cs)
  else
    let n := decimalNumber digits
    some (.number (if negative then (if n = 0 then none else some (-n)) else some n), cs)

theorem readJsonNumber_append (n : Numeral) (after : AfterValue rest) :
    ∃ d, readJsonNumber (n.chars ++ rest) = some (d, rest) := by
  have whole := readWhole_append n (stop_pointed n after)
  obtain ⟨hasFraction, fraction⟩ := readFraction_append n (stop_tail n after)
  obtain ⟨hasExponent, exponent⟩ := readExponent_append n after
  have body {negative : Bool} {cs : List Char} (e : cs = n.whole ++ (n.pointed ++ (n.tail ++ rest))) :
      ∃ d, readUnsigned negative cs = some (d, rest) := by
    unfold readUnsigned
    rw [e, whole]
    simp only [Option.bind_eq_bind, Option.bind_some, fraction, exponent]
    split
    · exact ⟨_, rfl⟩
    · exact ⟨_, rfl⟩
  rw [chars_append]
  unfold readJsonNumber Numeral.sign
  cases n.negative with
  | true => exact body rfl
  | false =>
    rw [if_neg (by decide), List.nil_append]
    split
    rename_i negative cs e
    split at e
    · rename_i minus
      exact absurd minus (digits_ne_cons n.isWhole n.whole_ne rfl)
    · injection e with _ e
      exact body e.symm

theorem exists_numeral_of_readJsonNumber {d : Document} (h : readJsonNumber cs = some (d, rest)) :
    ∃ n : Numeral, cs = n.chars ++ rest := by
  have build (negative : Bool) {cs : List Char} (h : readUnsigned negative cs = some (d, rest)) :
      ∃ n : Numeral, n.negative = negative ∧ cs = n.whole ++ (n.pointed ++ (n.tail ++ rest)) := by
    unfold readUnsigned at h
    simp only [Option.bind_eq_bind, Option.bind_eq_some_iff, Prod.exists] at h
    obtain ⟨ds, cs₁, hwhole, hasFraction, cs₂, hfraction, hasExponent, cs₃, hexponent, h⟩ := h
    have e : cs₃ = rest := by
      split at h <;> injection h with h <;> injection h
    subst e
    obtain ⟨rfl, isWhole, ne, lead⟩ := readWhole_eq_some hwhole
    obtain ⟨fs, isFraction, rfl⟩ := readFraction_eq_some hfraction
    obtain ⟨power, rfl⟩ := readExponent_eq_some hexponent
    exact ⟨⟨negative, ds, fs, power, ne, isWhole, isFraction, lead⟩, rfl, rfl⟩
  unfold readJsonNumber at h
  split at h
  rename_i negative body e
  split at e
  · injection e with e e'
    subst e e'
    obtain ⟨n, negative, rfl⟩ := build true h
    exact ⟨n, by rw [chars_append, Numeral.sign, negative]; rfl⟩
  · injection e with e e'
    subst e e'
    obtain ⟨n, negative, rfl⟩ := build false h
    exact ⟨n, by rw [chars_append, Numeral.sign, negative]; rfl⟩

end Strict

/-! ## The engine's reader -/

section Engine

variable {ds cs rest : List Char}

theorem toNat_unitOf_ascii {c : Char} (h : c.toNat < 0x80) : (unitOf c).toNat = c.toNat :=
  toNat_unitOf (toNat_lt_of_ascii h)

theorem digitValue?_unitOf {c : Char} (h : c.isDigit = true) : digitValue? (unitOf c) = some (c.toNat - 48) := by
  have bounds := isDigit_bounds h
  unfold digitValue?
  rw [toNat_unitOf_ascii (by omega)]
  exact if_pos (by simp only [Bool.and_eq_true, decide_eq_true_eq]; omega)

theorem isDigitOf_unitOf {c : Char} (h : c.isDigit = true) : isDigitOf 10 (unitOf c) = true := by
  have bounds := isDigit_bounds h
  unfold isDigitOf
  rw [digitValue?_unitOf h]
  exact decide_eq_true (by omega)

theorem unitsOf_digits (hd : Digits ds) : unitsOf ds = ds.map unitOf :=
  unitsOf_ascii fun c hc => by have := isDigit_bounds (hd c hc); omega

theorem AfterValue.units_false (h : AfterValue rest) {p : UInt16 → Bool}
    (hp : ∀ c ∈ [',', ']', '}', ' ', '\n', '\t', '\r'], p (unitOf c) = false) :
    ∀ u, (unitsOf rest).head? = some u → p u = false := by
  apply head_unitsOf_false
  intro c hc
  have ascii : ∀ c ∈ [',', ']', '}', ' ', '\n', '\t', '\r'], c.toNat < 0x80 :=
    List.all_iff_forall_prop.mp (by decide)
  have := h.head_false (p := fun c => !(decide (c.toNat < 0x80) && !p (unitOf c)))
    (fun c hc => by simp [ascii c hc, hp c hc]) c hc
  simpa using this

theorem spanDigits_append (hd : Digits ds) (stop : ∀ u, (unitsOf rest).head? = some u → isDigitOf 10 u = false) :
    spanDigits (unitsOf (ds ++ rest)) = (unitsOf ds, unitsOf rest) := by
  have all : ∀ u ∈ unitsOf ds, isDigitOf 10 u = true := by
    rw [unitsOf_digits hd]
    intro u hu
    obtain ⟨c, hc, rfl⟩ := List.mem_map.mp hu
    exact isDigitOf_unitOf (hd c hc)
  unfold spanDigits
  rw [List.span_eq_takeWhile_dropWhile, unitsOf_append, takeWhile_append_of_stop all stop,
    dropWhile_append_of_stop all stop]

theorem foldl_digits (hd : Digits ds) (init : Nat) :
    (ds.map unitOf).foldl (fun n u => n * 10 + (digitValue? u).getD 0) init = Nat.ofDigitChars 10 ds init := by
  induction ds generalizing init with
  | nil => simp
  | cons c ds ih =>
    rw [List.map_cons, List.foldl_cons, digitValue?_unitOf (hd c (by simp)), Option.getD_some, Nat.mul_comm,
      ih fun d h => hd d (by simp [h]), Nat.ofDigitChars_cons]
    rfl

theorem numberOf_unitsOf (hd : Digits ds) : numberOf 10 (unitsOf ds) = Nat.ofDigitChars 10 ds 0 := by
  rw [unitsOf_digits hd]
  exact foldl_digits hd 0

theorem isUnit_digit {d c : Char} (hd : d.isDigit = true) (hc : isDigitOf 10 (unitOf c) = false) :
    ¬ isUnit (unitOf d) c = true := by
  intro e
  rw [← eq_of_beq e, isDigitOf_unitOf hd] at hc
  cases hc

/-- Takes the sign off an exponent; tells whether it was a minus. -/
def takeSign (us : List UInt16) : Bool × List UInt16 :=
  match us with
  | s :: more => if isUnit s '-' then (true, more) else if isUnit s '+' then (false, more) else (false, us)
  | [] => (false, [])

/-- The exponent that digits write, or none with all that was there. -/
def exponentOf (all : List UInt16) (negative : Bool) : List UInt16 × List UInt16 → Int × List UInt16
  | ([], _) => (0, all)
  | (ds, rest) => (if negative then -(numberOf 10 ds : Int) else numberOf 10 ds, rest)

theorem readExponentPart_cons {e : UInt16} {us ds after : List UInt16} (mark : (isUnit e 'e' || isUnit e 'E') = true)
    (span : spanDigits (takeSign us).2 = (ds, after)) (ne : ds ≠ []) :
    readExponentPart (e :: us) = (if (takeSign us).1 then -(numberOf 10 ds : Int) else numberOf 10 ds, after) := by
  obtain ⟨d, ds, rfl⟩ := List.exists_cons_of_ne_nil ne
  unfold readExponentPart
  dsimp only
  rw [if_pos mark]
  change exponentOf (e :: us) (takeSign us).1 (spanDigits (takeSign us).2) = _
  rw [span]
  rfl

theorem takeSign_append (p : Power) :
    takeSign (unitsOf (p.sign ++ (p.digits ++ rest))) = (decide (p.minus = some true), unitsOf (p.digits ++ rest)) := by
  unfold Power.sign
  cases p.minus with
  | none =>
    obtain ⟨d, ds, hds⟩ := List.exists_cons_of_ne_nil p.digits_ne
    have hd : d.isDigit = true := p.isDigits d (by simp [hds])
    have ascii : d.toNat < 0x80 := by have := isDigit_bounds hd; omega
    rw [hds, List.nil_append, List.cons_append, unitsOf_cons_ascii ascii, takeSign, if_neg (isUnit_digit hd (by decide)),
      if_neg (isUnit_digit hd (by decide))]
    rfl
  | some minus =>
    cases minus with
    | true => rw [List.singleton_append, unitsOf_cons_ascii (by decide), takeSign, if_pos (by decide)]; rfl
    | false =>
      rw [List.singleton_append, unitsOf_cons_ascii (by decide), takeSign, if_neg (by decide), if_pos (by decide)]
      rfl

theorem readExponentPart_append (n : Numeral) (after : AfterValue rest) :
    readExponentPart (unitsOf (n.tail ++ rest)) = ((n.power.map Power.value).getD 0, unitsOf rest) := by
  unfold Numeral.tail
  cases n.power with
  | none =>
    simp only [Option.map_none, Option.getD_none, List.nil_append]
    have stop := after.units_false (p := fun u => isUnit u 'e' || isUnit u 'E')
      (List.all_iff_forall_prop.mp (by decide))
    unfold readExponentPart
    split
    · rename_i u us e
      rw [if_neg (by rw [stop u (by rw [e]; rfl)]; decide)]
    · rename_i e
      rw [e]
  | some p =>
    simp only [Option.map_some, Option.getD_some, Power.chars, List.cons_append, List.append_assoc]
    have ascii : p.mark.toNat < 0x80 := by rcases p.mark_eq with e | e <;> rw [e] <;> decide
    have mark : (isUnit (unitOf p.mark) 'e' || isUnit (unitOf p.mark) 'E') = true := by
      rcases p.mark_eq with e | e <;> rw [e] <;> decide
    have sign : takeSign (unitsOf (p.sign ++ (p.digits ++ rest))) = _ := takeSign_append p
    have span : spanDigits (unitsOf (p.digits ++ rest)) = _ :=
      spanDigits_append p.isDigits (after.units_false (List.all_iff_forall_prop.mp (by decide)))
    rw [unitsOf_cons_ascii ascii, readExponentPart_cons mark (by rw [sign]; exact span) (unitsOf_ne_nil p.digits_ne),
      sign, numberOf_unitsOf p.isDigits, Power.value]
    simp only [decide_eq_true_eq]

theorem units_tail_false (n : Numeral) (after : AfterValue rest) :
    ∀ u, (unitsOf (n.tail ++ rest)).head? = some u → (isDigitOf 10 u || isUnit u '.') = false := by
  unfold Numeral.tail
  cases n.power with
  | none =>
    exact after.units_false (p := fun u => isDigitOf 10 u || isUnit u '.')
      (List.all_iff_forall_prop.mp (by decide))
  | some p =>
    apply head_unitsOf_false (p := fun u => isDigitOf 10 u || isUnit u '.')
    intro c hc
    injection hc with hc
    rcases p.mark_eq with e | e <;> rw [← hc, e] <;> decide

theorem units_pointed_false (n : Numeral) (after : AfterValue rest) :
    ∀ u, (unitsOf (n.pointed ++ (n.tail ++ rest))).head? = some u → isDigitOf 10 u = false := by
  unfold Numeral.pointed
  split
  · intro u hu
    have := units_tail_false n after u hu
    simp only [Bool.or_eq_false_iff] at this
    exact this.1
  · apply head_unitsOf_false
    intro c hc
    injection hc with hc
    rw [← hc]
    decide

/-- The fraction of a numeral, as the engine takes it off. -/
def takeFraction (whole us : List UInt16) : List UInt16 × List UInt16 :=
  match us with
  | p :: more => if isUnit p '.' then
      let (ds, after) := spanDigits more
      if whole.isEmpty && ds.isEmpty then ([], us) else (ds, after)
    else ([], us)
  | [] => ([], us)

theorem takeFraction_append (n : Numeral) (after : AfterValue rest) :
    takeFraction (unitsOf n.whole) (unitsOf (n.pointed ++ (n.tail ++ rest)))
      = (unitsOf n.fraction, unitsOf (n.tail ++ rest)) := by
  have stop := units_tail_false n after
  have digits : ∀ u, (unitsOf (n.tail ++ rest)).head? = some u → isDigitOf 10 u = false := fun u hu =>
    ((Bool.or_eq_false_iff).mp (stop u hu)).1
  unfold Numeral.pointed
  split
  · rename_i none
    rw [none, List.nil_append]
    unfold takeFraction
    split
    · rename_i u us e
      have := ((Bool.or_eq_false_iff).mp (stop u (by rw [e]; rfl))).2
      rw [if_neg (by rw [this]; decide)]
      rfl
    · rfl
  · have whole : (unitsOf n.whole).isEmpty = false := by
      rw [List.isEmpty_eq_false_iff]
      exact unitsOf_ne_nil n.whole_ne
    rw [List.cons_append, unitsOf_cons_ascii (by decide), takeFraction, if_pos (by decide),
      spanDigits_append n.isFraction digits, whole]
    rfl

/-- A decimal number, from its whole digits and from its fraction with what follows that. -/
def scaled (negative : Bool) (whole : List UInt16) (fraction : List UInt16 × List UInt16) :
    Option (Float × List UInt16) :=
  if whole.isEmpty && fraction.1.isEmpty then none
  else
    let power := readExponentPart fraction.2
    some (ofDecimal negative (numberOf 10 (whole ++ fraction.1)) (power.1 - fraction.1.length), power.2)

theorem readDecimal?_append (n : Numeral) (after : AfterValue rest) :
    readDecimal? n.negative (unitsOf (n.whole ++ (n.pointed ++ (n.tail ++ rest)))) = some (n.float, unitsOf rest) := by
  have power := readExponentPart_append n after
  have whole := spanDigits_append n.isWhole (units_pointed_false n after)
  have fraction := takeFraction_append n after
  have all := numberOf_unitsOf (digits_append n.isWhole n.isFraction)
  have length : (unitsOf n.fraction).length = n.fraction.length := by rw [unitsOf_digits n.isFraction, List.length_map]
  have ne : ¬ ((unitsOf n.whole).isEmpty && (unitsOf n.fraction).isEmpty) = true := by
    simp [unitsOf_ne_nil n.whole_ne]
  unfold readDecimal?
  rw [whole]
  change scaled n.negative (unitsOf n.whole)
    (takeFraction (unitsOf n.whole) (unitsOf (n.pointed ++ (n.tail ++ rest)))) = _
  unfold scaled
  rw [fraction]
  dsimp only
  rw [if_neg ne, power, ← unitsOf_append, all, length]
  rfl

theorem readNumber?_append (n : Numeral) (after : AfterValue rest) :
    Json.readNumber? (unitsOf (n.chars ++ rest)) = some (n.float, unitsOf rest) := by
  have decimal := readDecimal?_append n after
  obtain ⟨d, ds, hds⟩ := List.exists_cons_of_ne_nil n.whole_ne
  have hd : d.isDigit = true := n.isWhole d (by simp [hds])
  have ascii : d.toNat < 0x80 := by have := isDigit_bounds hd; omega
  have digit : isDigitOf 10 (unitOf d) = true := isDigitOf_unitOf hd
  rw [chars_append]
  unfold Numeral.sign
  cases hn : n.negative with
  | true =>
    rw [hn] at decimal
    rw [if_pos rfl, List.singleton_append, unitsOf_cons_ascii (by decide)]
    rw [hds, List.cons_append, unitsOf_cons_ascii ascii] at decimal ⊢
    unfold Json.readNumber?
    dsimp only
    rw [if_pos (by decide), if_pos digit, decimal]
  | false =>
    rw [hn] at decimal
    rw [if_neg (by decide), List.nil_append]
    rw [hds, List.cons_append, unitsOf_cons_ascii ascii] at decimal ⊢
    unfold Json.readNumber?
    dsimp only
    rw [if_neg (isUnit_digit hd (by decide)), decimal]
    split
    · rename_i zero
      have isZero : d = '0' := by
        have e : (unitOf d).toNat = (unitOf '0').toNat := by rw [eq_of_beq zero]
        rw [toNat_unitOf_ascii ascii] at e
        exact Char.toNat_inj.mp e
      have alone : ds = [] := by
        have := n.lead (by rw [hds, isZero]; rfl)
        rw [hds] at this
        injection this
      rw [alone, List.nil_append]
      split
      · rename_i u us e
        have := units_pointed_false n after u (by rw [e]; rfl)
        rw [if_neg (by rw [this]; decide)]
      · rfl
    · rfl

end Engine

end BrainHost.Script
