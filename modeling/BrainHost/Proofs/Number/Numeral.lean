import BrainHost.Proofs.Number.Shortest

/-! # Numerals

The numbers of JSON texts: an optional sign, digits without a leading zero, a fraction and an
exponent. The text of a finite double is one, and reads as the double; only a negative zero loses its
sign. -/

namespace BrainHost.Number

/-! ## Digits -/

/-- Whether a text is made of digits only. -/
def Digits (cs : List Char) : Prop := ∀ c ∈ cs, c.isDigit = true

theorem digits_append {cs ds : List Char} (hc : Digits cs) (hd : Digits ds) : Digits (cs ++ ds) := by
  intro c h
  rcases List.mem_append.mp h with h | h
  · exact hc c h
  · exact hd c h

theorem digits_replicate (n : Nat) : Digits (List.replicate n '0') := by
  intro c h
  rw [List.eq_of_mem_replicate h]
  rfl

theorem digits_toDigits (n : Nat) : Digits (Nat.toDigits 10 n) :=
  fun _ => Nat.isDigit_of_mem_toDigits (by decide) (by decide)

theorem foldl_toDigits (n : Nat) :
    (Nat.toDigits 10 n).foldl (fun acc c => acc * 10 + (c.toNat - '0'.toNat)) 0 = n := by
  have swapped : (fun acc (c : Char) => acc * 10 + (c.toNat - '0'.toNat)) =
      fun acc c => 10 * acc + (c.toNat - '0'.toNat) := by
    funext acc c
    rw [Nat.mul_comm]
  rw [swapped]
  exact Nat.ofDigitChars_toDigits (by decide) (by decide)

theorem isDigit_bounds {c : Char} (h : c.isDigit = true) : 48 ≤ c.toNat ∧ c.toNat ≤ 57 := by
  have h := Char.isDigit_iff_toNat.mp h
  exact h

theorem head?_toDigits {n : Nat} (h : n ≠ 0) : (Nat.toDigits 10 n).head? ≠ some '0' := by
  induction n using Nat.strongRecOn with
  | ind n ih =>
    rw [Nat.toDigits_eq_if (by norm_num)]
    split
    · rename_i small
      have : n.digitChar.toNat = 48 + n := Nat.toNat_digitChar_of_lt_ten small
      intro e
      injection e with e
      rw [e] at this
      exact h (by simpa using this.symm)
    · rename_i large
      rw [List.head?_append_of_ne_nil _ Nat.toDigits_ne_nil]
      exact ih (n / 10) (by omega) (by omega)

theorem toDigits_digit {c : Char} (h : c.isDigit = true) : Nat.toDigits 10 (c.toNat - '0'.toNat) = [c] := by
  have bounds := isDigit_bounds h
  have value : c.toNat - '0'.toNat < 10 := by
    show c.toNat - 48 < 10
    omega
  rw [Nat.toDigits_of_lt_base value]
  congr 1
  apply Char.toNat_inj.mp
  rw [Nat.toNat_digitChar_of_lt_ten value]
  show 48 + (c.toNat - 48) = c.toNat
  omega

theorem toDigits_ofDigitChars_append {cs : List Char} (hd : Digits cs) {n : Nat} (h : 0 < n) :
    Nat.toDigits 10 (Nat.ofDigitChars 10 cs n) = Nat.toDigits 10 n ++ cs := by
  induction cs generalizing n with
  | nil => simp
  | cons c cs ih =>
    have bounds := isDigit_bounds (hd c (by simp))
    have value : c.toNat - '0'.toNat < 10 := by
      show c.toNat - 48 < 10
      omega
    rw [Nat.ofDigitChars_cons, ih (fun d hd' => hd d (by simp [hd'])) (by omega),
      ← Nat.toDigits_append_toDigits (by decide) h value, toDigits_digit (hd c (by simp)), List.append_assoc]
    rfl

theorem toDigits_ofDigitChars {c : Char} {cs : List Char} (hd : Digits (c :: cs)) (h : c = '0' → cs = []) :
    Nat.toDigits 10 (Nat.ofDigitChars 10 (c :: cs) 0) = c :: cs := by
  by_cases hc : c = '0'
  · rw [hc, h hc]
    decide
  · have bounds := isDigit_bounds (hd c (by simp))
    have pos : 0 < 10 * 0 + (c.toNat - '0'.toNat) := by
      have : c.toNat ≠ 48 := fun e => hc (Char.toNat_inj.mp e)
      show 0 < 10 * 0 + (c.toNat - 48)
      omega
    rw [Nat.ofDigitChars_cons, toDigits_ofDigitChars_append (fun d hd' => hd d (by simp [hd'])) pos, Nat.mul_zero,
      Nat.zero_add, toDigits_digit (hd c (by simp))]
    rfl

theorem toList_digitText {cs : List Char} (h : Digits cs) :
    (digitText (cs.map fun c => c.toNat - '0'.toNat)).toList = cs := by
  unfold digitText
  rw [String.toList_ofList, List.map_map]
  conv_rhs => rw [← List.map_id cs]
  apply List.map_congr_left
  intro c hc
  obtain ⟨low, -⟩ := isDigit_bounds (h c hc)
  show Char.ofNat (c.toNat - 48 + 48) = c
  rw [Nat.sub_add_cancel low, Char.ofNat_toNat]

theorem toList_pushn (s : String) (c : Char) (n : Nat) : (s.pushn c n).toList = s.toList ++ List.replicate n c := by
  rw [String.pushn_eq_repeat_push]
  induction n with
  | zero => simp [Nat.repeat]
  | succ n ih => rw [Nat.repeat, String.toList_push, ih, List.replicate_succ', List.append_assoc]

theorem toList_zeros (n : Nat) : (zeros n).toList = List.replicate n '0' := toList_pushn "" '0' n

/-! ## Numerals -/

/-- The exponent of a numeral. -/
structure Power where
  mark : Char
  /-- Whether the sign is a minus, if there is a sign. -/
  minus : Option Bool
  digits : List Char
  mark_eq : mark = 'e' ∨ mark = 'E'
  digits_ne : digits ≠ []
  isDigits : Digits digits

/-- A number as JSON writes it. -/
structure Numeral where
  negative : Bool
  whole : List Char
  /-- The digits after the point; there is no point without them. -/
  fraction : List Char
  power : Option Power
  whole_ne : whole ≠ []
  isWhole : Digits whole
  isFraction : Digits fraction
  lead : whole.head? = some '0' → whole = ['0']

namespace Power

def sign (p : Power) : List Char :=
  match p.minus with
  | none => []
  | some true => ['-']
  | some false => ['+']

theorem sign_cases (p : Power) : p.sign = [] ∨ p.sign = ['+'] ∨ p.sign = ['-'] := by
  unfold Power.sign
  split <;> simp

def chars (p : Power) : List Char := p.mark :: (p.sign ++ p.digits)

def value (p : Power) : Int :=
  if p.minus = some true then -(Nat.ofDigitChars 10 p.digits 0 : Int) else Nat.ofDigitChars 10 p.digits 0

end Power

namespace Numeral

def sign (n : Numeral) : List Char := if n.negative then ['-'] else []

def pointed (n : Numeral) : List Char := if n.fraction = [] then [] else '.' :: n.fraction

def tail (n : Numeral) : List Char := (n.power.map Power.chars).getD []

def chars (n : Numeral) : List Char := n.sign ++ n.whole ++ n.pointed ++ n.tail

/-- The double that a numeral reads as. -/
def float (n : Numeral) : Float :=
  ofDecimal n.negative (Nat.ofDigitChars 10 (n.whole ++ n.fraction) 0)
    ((n.power.map Power.value).getD 0 - n.fraction.length)

end Numeral

/-! ## The layouts -/

/-- The digits of a number that reads as a double. -/
structure Layout (negative : Bool) (d : Decimal) (x : Float) (cs : List Char) : Prop where
  digits_eq : d.digits = cs.map fun c => c.toNat - '0'.toNat
  isDigits : Digits cs
  ne_nil : cs ≠ []
  head_ne : cs.head? ≠ some '0'
  lt : Nat.ofDigitChars 10 cs 0 < 10 ^ 17
  reads : ofDecimal negative (Nat.ofDigitChars 10 cs 0) (d.point - cs.length) = x

variable {negative : Bool} {d : Decimal} {x : Float} {cs : List Char}

theorem Layout.length (h : Layout negative d x cs) : d.digits.length = cs.length := by
  rw [h.digits_eq, List.length_map]

theorem Layout.head_take (h : Layout negative d x cs) {n : Nat} (hn : n ≠ 0) : (cs.take n).head? ≠ some '0' := by
  rw [List.head?_take, if_neg hn]
  exact h.head_ne

/-- What stands behind the sign of a numeral that reads as a double. -/
def Unsigned (negative : Bool) (x : Float) (text : List Char) : Prop :=
  ∃ n : Numeral, n.negative = negative ∧ text = n.whole ++ n.pointed ++ n.tail ∧ n.float = x

theorem Layout.fractional (h : Layout negative d x cs) (low : d.point ≤ 0) :
    Unsigned negative x ("0." ++ zeros (-d.point).toNat ++ digitText d.digits).toList := by
  have text := toList_digitText h.isDigits
  rw [← h.digits_eq] at text
  have digits := digits_append (digits_replicate (-d.point).toNat) h.isDigits
  refine ⟨⟨negative, ['0'], List.replicate (-d.point).toNat '0' ++ cs, none, by simp, digits_replicate 1, digits, by simp⟩,
    rfl, ?_, ?_⟩
  · simp [Numeral.pointed, Numeral.tail, toList_zeros, text, h.ne_nil]
  · unfold Numeral.float
    dsimp only
    rw [← h.reads]
    simp only [List.cons_append, List.nil_append, Nat.ofDigitChars_cons, Nat.ofDigitChars_append,
      Nat.ofDigitChars_replicate_zero, Option.map_none, Option.getD_none, List.length_append,
      List.length_replicate]
    congr 1
    push_cast
    omega

theorem Layout.integral {p : Nat} (h : Layout negative d x cs) (hp : d.point = p) (small : p ≤ 21)
    (long : cs.length ≤ p) : Unsigned negative x (digitText d.digits ++ zeros (p - cs.length)).toList := by
  have text := toList_digitText h.isDigits
  rw [← h.digits_eq] at text
  refine ⟨⟨negative, cs ++ List.replicate (p - cs.length) '0', [], none, by simp [h.ne_nil],
    digits_append h.isDigits (digits_replicate _), digits_replicate 0, ?_⟩, rfl, ?_, ?_⟩
  · intro zero
    rw [List.head?_append_of_ne_nil _ h.ne_nil] at zero
    exact absurd zero h.head_ne
  · simp [Numeral.pointed, Numeral.tail, toList_zeros, text]
  · unfold Numeral.float
    dsimp only
    rw [← h.reads, hp]
    have bound : Nat.ofDigitChars 10 cs 0 * 10 ^ (p - cs.length) < 2 ^ 200 :=
      calc Nat.ofDigitChars 10 cs 0 * 10 ^ (p - cs.length) < 10 ^ 17 * 10 ^ 21 :=
            Nat.mul_lt_mul_of_lt_of_le h.lt (Nat.pow_le_pow_right (by norm_num) (by omega)) (by norm_num)
        _ < 2 ^ 200 := by norm_num
    simp only [List.append_nil, Nat.ofDigitChars_append, Nat.ofDigitChars_replicate_zero, Option.map_none,
      Option.getD_none, List.length_nil]
    rw [mul_comm, show (0 : Int) - (0 : Nat) = 0 by rfl, ofDecimal_mul_pow negative bound]
    congr 1
    omega

theorem Layout.mixed {p : Nat} (h : Layout negative d x cs) (hp : d.point = p) (positive : p ≠ 0)
    (short : p < cs.length) :
    Unsigned negative x (digitText (d.digits.take p) ++ "." ++ digitText (d.digits.drop p)).toList := by
  have front : Digits (cs.take p) := fun c hc => h.isDigits c (List.mem_of_mem_take hc)
  have back : Digits (cs.drop p) := fun c hc => h.isDigits c (List.mem_of_mem_drop hc)
  have frontText := toList_digitText front
  have backText := toList_digitText back
  rw [List.map_take, ← h.digits_eq] at frontText
  rw [List.map_drop, ← h.digits_eq] at backText
  refine ⟨⟨negative, cs.take p, cs.drop p, none, ?_, front, back,
    fun zero => absurd zero (h.head_take positive)⟩, rfl, ?_, ?_⟩
  · simp [h.ne_nil, positive]
  · have ne : cs.drop p ≠ [] := by simp; omega
    simp [Numeral.pointed, Numeral.tail, frontText, backText, ne]
  · unfold Numeral.float
    dsimp only
    rw [← h.reads, hp]
    simp only [List.take_append_drop, Option.map_none, Option.getD_none, List.length_drop]
    congr 1
    omega

theorem Layout.positional (h : Layout negative d x cs) (small : d.point ≤ 21) :
    Unsigned negative x (positional d).toList := by
  unfold Number.positional
  dsimp only
  rw [h.length]
  split
  · next low => exact h.fractional low
  · next high =>
    obtain ⟨p, hp⟩ := Int.eq_ofNat_of_zero_le (by omega : 0 ≤ d.point)
    rw [hp, Int.toNat_natCast]
    split
    · next long => exact h.integral hp (by omega) long
    · next short => exact h.mixed hp (by omega) (by omega)

theorem Layout.exponential (h : Layout negative d x cs) : Unsigned negative x (exponential d).toList := by
  obtain ⟨c, rest, rfl⟩ := List.exists_cons_of_ne_nil h.ne_nil
  have first : Digits [c] := fun a ha => h.isDigits a (by simp at ha; simp [ha])
  have others : Digits rest := fun a ha => h.isDigits a (by simp [ha])
  have firstText := toList_digitText first
  have restText := toList_digitText others
  let power : Power := ⟨'e', some (decide (d.point - 1 < 0)), Nat.toDigits 10 (d.point - 1).natAbs, .inl rfl, by simp,
    digits_toDigits _⟩
  have value : power.value = d.point - 1 := by
    unfold Power.value
    simp only [power, Option.some.injEq, decide_eq_true_eq, Nat.ofDigitChars_ten_toDigits]
    split <;> omega
  refine ⟨⟨negative, [c], rest, some power, by simp, first, others, ?_⟩, rfl, ?_, ?_⟩
  · intro zero
    exact absurd zero h.head_ne
  · have mark : (if d.point - 1 < 0 then "e-" else "e+").toList = 'e' :: power.sign := by
      unfold Power.sign
      simp only [power]
      by_cases neg : d.point - 1 < 0 <;> simp [neg]
    unfold Number.exponential
    rw [h.digits_eq]
    cases rest with
    | nil =>
      simp only [List.map_cons, List.map_nil, String.toList_append, mark, Numeral.pointed, Numeral.tail, if_true,
        Option.map_some, Option.getD_some, Power.chars]
      rw [show (digitText [c.toNat - '0'.toNat]).toList = [c] from firstText]
      simp [power]
    | cons c' rest =>
      simp only [List.map_cons, String.toList_append, mark, Numeral.pointed, Numeral.tail, Option.map_some,
        Option.getD_some, Power.chars]
      rw [show (digitText [c.toNat - '0'.toNat]).toList = [c] from firstText,
        show (digitText ((c'.toNat - '0'.toNat) :: rest.map fun c => c.toNat - '0'.toNat)).toList = c' :: rest
          from restText]
      simp [power]
  · unfold Numeral.float
    dsimp only
    rw [← h.reads]
    have places : d.point - 1 - (rest.length : Int) = d.point - ((c :: rest).length : Int) := by
      rw [List.length_cons]
      omega
    simp only [List.cons_append, List.nil_append, Option.map_some, Option.getD_some, value, places]

theorem Layout.text (h : Layout negative d x cs) : Unsigned negative x d.text.toList := by
  unfold Decimal.text
  split
  · next plain =>
    simp only [Bool.and_eq_true, decide_eq_true_eq] at plain
    exact h.positional plain.2
  · exact h.exponential

/-! ## The text of a double -/

/-- A finite double as it reads back: a zero loses its sign. -/
def settledFloat (x : Float) (b : Binary) : Float := if b.mantissa = 0 then zero false else x

/-- The text of a finite double is a numeral, which reads as the double up to the sign of a zero. -/
theorem exists_numeral {x : Float} {b : Binary} (h : toBinary? x = some b) :
    ∃ n : Numeral, (text x).toList = n.chars ∧ n.float = settledFloat x b := by
  obtain ⟨canonical, hx⟩ := canonical_of_toBinary? h
  unfold text settledFloat
  simp only [h]
  split
  · refine ⟨⟨false, ['0'], [], none, by simp, digits_replicate 1, digits_replicate 0, by simp⟩, rfl, ?_⟩
    unfold Numeral.float ofDecimal
    rfl
  · rename_i hm
    obtain ⟨k, reads⟩ := shortest_reads canonical hm
    have length : b.shortest.digits.length = (Nat.toDigits 10 k).length := by
      rw [reads.digits_eq, digitsOf, List.length_map]
    have layout : Layout b.negative b.shortest x (Nat.toDigits 10 k) := by
      refine ⟨reads.digits_eq, digits_toDigits k, Nat.toDigits_ne_nil, head?_toDigits reads.ne_zero, ?_, ?_⟩
      · rw [Nat.ofDigitChars_ten_toDigits]
        exact reads.lt
      · rw [Nat.ofDigitChars_ten_toDigits, ← length, reads.reads, hx]
    obtain ⟨n, sign, chars, float⟩ := layout.text
    refine ⟨n, ?_, float⟩
    rw [String.toList_append, chars, Numeral.chars, Numeral.sign, sign]
    cases b.negative <;> simp

end BrainHost.Number
