import BrainHost.Proofs.Number.Numeral
import Mathlib.Data.Nat.Factorization.Basic
import Mathlib.Data.Nat.Log

/-! # Integers as doubles

Below `2 ^ 53` every whole number is the value of a double. Fewer digits than it has without the zeros at its end
tell another number, which is the value of another double, and so it is written in full. -/

namespace BrainHost.Number

/-! ## Whole numbers that doubles hold -/

/-- The double of a whole number below `2 ^ 53` times a power of two. -/
def Binary.whole (negative : Bool) (m k : Nat) : Binary := ⟨negative, m * 2 ^ (52 - m.log2), m.log2 + k - 52⟩

section

variable {m k : Nat} (negative : Bool) (hm : 0 < m) (hlt : m < 2 ^ 53)
include hm hlt

theorem Binary.whole_mantissa : 2 ^ 52 ≤ (Binary.whole negative m k).mantissa ∧
    (Binary.whole negative m k).mantissa < 2 ^ 53 := by
  have hlog : m.log2 < 53 := (Nat.log2_lt hm.ne').mpr hlt
  have low : 2 ^ m.log2 ≤ m := Nat.log2_self_le hm.ne'
  have high : m < 2 ^ (m.log2 + 1) := Nat.lt_log2_self
  have scale : 0 < 2 ^ (52 - m.log2) := Nat.two_pow_pos _
  constructor
  · calc 2 ^ 52 = 2 ^ m.log2 * 2 ^ (52 - m.log2) := by rw [← pow_add]; congr 1; omega
      _ ≤ m * 2 ^ (52 - m.log2) := Nat.mul_le_mul_right _ low
  · calc m * 2 ^ (52 - m.log2) < 2 ^ (m.log2 + 1) * 2 ^ (52 - m.log2) := Nat.mul_lt_mul_of_pos_right high scale
      _ = 2 ^ 53 := by rw [← pow_add]; congr 1; omega

theorem Binary.whole_canonical (hk : k ≤ 900) : (Binary.whole negative m k).Canonical := by
  have hlog : m.log2 < 53 := (Nat.log2_lt hm.ne').mpr hlt
  obtain ⟨low, high⟩ := Binary.whole_mantissa (k := k) negative hm hlt
  refine ⟨high, ?_, ?_, .inl low⟩
  · show (-1074 : Int) ≤ m.log2 + k - 52
    omega
  · show (m.log2 + k - 52 : Int) ≤ 971
    omega

theorem Binary.whole_value : (Binary.whole negative m k).value = ((m * 2 ^ k : ℕ) : ℚ) := by
  have hlog : m.log2 < 53 := (Nat.log2_lt hm.ne').mpr hlt
  show ((m * 2 ^ (52 - m.log2) : ℕ) : ℚ) * 2 ^ ((m.log2 : Int) + k - 52) = _
  have exponents : ((52 - m.log2 : ℕ) : Int) + (m.log2 + k - 52) = k := by omega
  push_cast
  rw [mul_assoc, ← zpow_natCast, ← two_zpow_add, exponents, zpow_natCast]

theorem toBinary?_ofDecimal_whole (hk : k ≤ 7) :
    toBinary? (ofDecimal negative (m * 2 ^ k) 0) = some (Binary.whole negative m k) := by
  have canonical := Binary.whole_canonical negative hm hlt (hk.trans (by norm_num))
  have full := (Binary.whole_mantissa (k := k) negative hm hlt).1
  have small : m * 2 ^ k < 2 ^ 60 :=
    calc m * 2 ^ k < 2 ^ 53 * 2 ^ k := Nat.mul_lt_mul_of_pos_right hlt (Nat.two_pow_pos k)
      _ ≤ 2 ^ 53 * 2 ^ 7 := Nat.mul_le_mul_left _ (Nat.pow_le_pow_right (by norm_num) hk)
      _ = 2 ^ 60 := by norm_num
  have near : (Binary.whole negative m k).Near (((m * 2 ^ k : ℕ) : ℚ) * (10 : ℚ) ^ (0 : Int)) := by
    rw [Binary.Near, Binary.whole_value negative hm hlt, zpow_zero, mul_one, sub_self, abs_zero, zero_mul]
    positivity
  have mantissa : (Binary.whole negative m k).mantissa ≠ 0 := by omega
  have number : m * 2 ^ k ≠ 0 := (Nat.mul_pos hm (Nat.two_pow_pos k)).ne'
  have back := toBinary?_signed canonical
  rw [show (Binary.whole negative m k).negative = negative from rfl] at back
  rw [ofDecimal_eq canonical mantissa number small near, back]

end

/-! ## Rounding whole numbers -/

theorem roundQuotient_mul (tie : Tie) (num den : Nat) {scale : Nat} (h : 0 < scale) :
    roundQuotient tie (scale * num) (scale * den) = roundQuotient tie num den := by
  have less : 2 * (scale * (num % den)) < scale * den ↔ 2 * (num % den) < den := by
    rw [Nat.mul_left_comm]
    exact Nat.mul_lt_mul_left h
  have more : scale * den < 2 * (scale * (num % den)) ↔ den < 2 * (num % den) := by
    rw [Nat.mul_left_comm]
    exact Nat.mul_lt_mul_left h
  unfold roundQuotient
  simp only [Nat.mul_div_mul_left _ _ h, Nat.mul_mod_mul_left, gt_iff_lt, less, more]

theorem roundQuotient_bounds (num den : Nat) :
    num / den ≤ roundQuotient .toEven num den ∧ roundQuotient .toEven num den ≤ num / den + 1 := by
  unfold roundQuotient
  dsimp only
  split
  · omega
  · split
    · omega
    · split <;> omega

theorem roundQuotient_exact (n : Nat) {den : Nat} (h : 0 < den) : roundQuotient .toEven (n * den) den = n := by
  unfold roundQuotient
  dsimp only
  rw [Nat.mul_div_cancel _ h, Nat.mul_mod_left, Nat.mul_zero, if_pos h]

/-! ## The digits of whole numbers -/

section

variable {m : Nat} (negative : Bool) (hm : 0 < m) (hlt : m < 2 ^ 53) {places : Nat} (hlow : 10 ^ places ≤ m)
  (hhigh : m < 10 ^ (places + 1))
include hm hlt hlow hhigh

theorem exists_ratio_whole : ∃ den, 0 < den ∧ (Binary.whole negative m 0).ratio = (den * m, den) ∧
    decimalExponent (den * m) den = places + 1 := by
  have canonical := Binary.whole_canonical (k := 0) negative hm hlt (by norm_num)
  have mantissa : (Binary.whole negative m 0).mantissa ≠ 0 := by
    have := (Binary.whole_mantissa (k := 0) negative hm hlt).1
    omega
  obtain ⟨hn, hd, quotient⟩ := ratio_eq_value mantissa
  obtain ⟨low, high⟩ := canonical.value_bounds mantissa
  rw [← quotient] at low high
  obtain ⟨below, above⟩ := decimalExponent_bounds hn hd low high
  rw [Binary.whole_value negative hm hlt, pow_zero, mul_one] at quotient
  rw [quotient] at below above
  generalize (Binary.whole negative m 0).ratio = r at *
  obtain ⟨num, den⟩ := r
  dsimp only at *
  have hdq : (den : ℚ) ≠ 0 := by exact_mod_cast hd
  have product : num = den * m := by
    have : (num : ℚ) = den * m := by rw [← quotient, mul_div_cancel₀ _ hdq]
    exact_mod_cast this
  subst product
  refine ⟨den, Nat.pos_of_ne_zero hd, rfl, ?_⟩
  have ten : (1 : ℚ) < 10 := by norm_num
  have low' : (10 : ℚ) ^ (places : Int) ≤ m := by rw [zpow_natCast]; exact_mod_cast hlow
  have high' : (m : ℚ) < (10 : ℚ) ^ ((places : Int) + 1) := by
    have : (10 : ℚ) ^ ((places : Int) + 1) = ((10 ^ (places + 1) : ℕ) : ℚ) := by
      push_cast
      exact zpow_natCast 10 (places + 1)
    rw [this]
    exact_mod_cast hhigh
  have := (zpow_lt_zpow_iff_right₀ ten).mp (below.trans_lt high')
  have := (zpow_lt_zpow_iff_right₀ ten).mp (low'.trans_lt above)
  omega

theorem significant_whole {count cut : Nat} (hplaces : count + cut = places + 1) :
    (Binary.whole negative m 0).significant .toEven count =
      let n := roundQuotient .toEven m (10 ^ cut)
      if n ≥ 10 ^ count then ⟨digitsOf (n / 10), places + 2⟩ else ⟨digitsOf n, places + 1⟩ := by
  obtain ⟨den, hden, ratio, exponent⟩ := exists_ratio_whole negative hm hlt hlow hhigh
  have rounded : scaledRound .toEven (den * m) den ((count : Int) - ((places : Int) + 1)) =
      roundQuotient .toEven m (10 ^ cut) := by
    unfold scaledRound
    split
    · obtain rfl : cut = 0 := by omega
      have same := roundQuotient_mul .toEven m 1 hden
      rw [mul_one] at same
      rw [show ((count : Int) - ((places : Int) + 1)).toNat = 0 by omega, Nat.pow_eq, pow_zero, mul_one, same]
    · rw [show (-((count : Int) - ((places : Int) + 1))).toNat = cut by omega]
      exact roundQuotient_mul .toEven m (10 ^ cut) hden
  unfold Binary.significant
  rw [ratio]
  dsimp only
  rw [exponent, rounded]
  rfl

end

/-! ## The shortest digits of whole numbers -/

section

variable {digits zeros rest : Nat} (negative : Bool) (hlow : 10 ^ rest ≤ digits) (hhigh : digits < 10 ^ (rest + 1))
  (hlt : digits * 10 ^ zeros < 2 ^ 53)
include hlow hhigh

theorem whole_bounds : 0 < digits * 10 ^ zeros ∧ 10 ^ (rest + zeros) ≤ digits * 10 ^ zeros ∧
    digits * 10 ^ zeros < 10 ^ (rest + zeros + 1) := by
  have pos : 0 < 10 ^ zeros := Nat.pow_pos (by norm_num)
  refine ⟨Nat.mul_pos (Nat.lt_of_lt_of_le (Nat.pow_pos (by norm_num)) hlow) pos, ?_, ?_⟩
  · rw [pow_add]
    exact Nat.mul_le_mul_right _ hlow
  · rw [Nat.add_right_comm, pow_add]
    exact Nat.mul_lt_mul_of_pos_right hhigh pos

include hlt

theorem significant_full : (Binary.whole negative (digits * 10 ^ zeros) 0).significant .toEven (rest + 1) =
    ⟨digitsOf digits, (rest + zeros : ℕ) + 1⟩ := by
  obtain ⟨pos, low, high⟩ := whole_bounds hlow hhigh
  have places : rest + 1 + zeros = rest + zeros + 1 := Nat.add_right_comm rest 1 zeros
  rw [significant_whole negative pos hlt low high places]
  dsimp only
  rw [roundQuotient_exact _ (Nat.pow_pos (by norm_num)), if_neg (by omega)]

theorem readsBack_full :
    (Binary.whole negative (digits * 10 ^ zeros) 0).readsBack (ofDigits (digitsOf digits))
      ((rest + zeros : ℕ) + 1 - (digitsOf digits).length) = true := by
  obtain ⟨pos, -, -⟩ := whole_bounds hlow hhigh
  have read := toBinary?_ofDecimal_whole (k := 0) false pos hlt (by norm_num)
  rw [pow_zero, mul_one, ofDecimal_mul_pow false (hlt.trans (by norm_num))] at read
  have exponent : ((rest + zeros : ℕ) + 1 - (digitsOf digits).length : Int) = zeros := by
    rw [length_digitsOf hlow hhigh]
    omega
  unfold Binary.readsBack
  rw [ofDigits_digitsOf, exponent, read]
  dsimp only [Binary.whole]
  simp

end

theorem not_readsBack_whole (negative : Bool) {m n cut : Nat} (hm : 0 < m) (hlt : m < 2 ^ 53) (hn : 0 < n)
    (small : n * 10 ^ (cut + 1) ≤ 10 ^ 16) (other : n * 10 ^ (cut + 1) ≠ m) :
    (Binary.whole negative m 0).readsBack n ((cut + 1 : ℕ) : Int) = false := by
  have halves : n * 10 ^ (cut + 1) = n * 10 ^ cut * 5 * 2 ^ 1 := by ring
  have pos : 0 < n * 10 ^ cut * 5 := Nat.mul_pos (Nat.mul_pos hn (Nat.pow_pos (by norm_num))) (by norm_num)
  have half_lt : n * 10 ^ cut * 5 < 2 ^ 53 := by omega
  have read := toBinary?_ofDecimal_whole (k := 1) false pos half_lt (by norm_num)
  rw [← halves, ofDecimal_mul_pow false (small.trans_lt (by norm_num))] at read
  unfold Binary.readsBack
  rw [read]
  dsimp only
  rw [Bool.and_eq_false_iff]
  by_contra same
  push Not at same
  simp only [ne_eq, Bool.not_eq_false, decide_eq_true_eq] at same
  have value : (Binary.whole false (n * 10 ^ cut * 5) 1).value = (Binary.whole negative m 0).value := by
    rw [Binary.value, Binary.value, same.1, same.2]
  rw [Binary.whole_value false pos half_lt, Binary.whole_value negative hm hlt, ← halves, pow_zero, mul_one] at value
  exact other (by exact_mod_cast value)

theorem not_readsBack_short (negative : Bool) {m places count cut : Nat} (hm : 0 < m) (hlt : m < 2 ^ 53)
    (hlow : 10 ^ places ≤ m) (hhigh : m < 10 ^ (places + 1)) (hplaces : count + 1 + (cut + 1) = places + 1)
    (hcut : ¬ 10 ^ (cut + 1) ∣ m) :
    let d := (Binary.whole negative m 0).significant .toEven (count + 1)
    (Binary.whole negative m 0).readsBack (ofDigits d.digits) (d.point - d.digits.length) = false := by
  have unit : 0 < 10 ^ (cut + 1) := Nat.pow_pos (by norm_num)
  have parts : 10 ^ places = 10 ^ count * 10 ^ (cut + 1) := by rw [← pow_add]; congr 1; omega
  have parts' : 10 ^ (places + 1) = 10 ^ (count + 1) * 10 ^ (cut + 1) := by rw [← pow_add]; congr 1; omega
  obtain ⟨down, up⟩ := roundQuotient_bounds m (10 ^ (cut + 1))
  have low : 10 ^ count ≤ roundQuotient .toEven m (10 ^ (cut + 1)) :=
    ((Nat.le_div_iff_mul_le unit).mpr (parts ▸ hlow)).trans down
  have high : roundQuotient .toEven m (10 ^ (cut + 1)) ≤ 10 ^ (count + 1) :=
    up.trans ((Nat.div_lt_iff_lt_mul unit).mpr (parts' ▸ hhigh))
  have few : places + 1 ≤ 16 := by
    by_contra many
    have : 10 ^ 16 ≤ 10 ^ places := Nat.pow_le_pow_right (by norm_num) (by omega)
    omega
  have small : roundQuotient .toEven m (10 ^ (cut + 1)) * 10 ^ (cut + 1) ≤ 10 ^ 16 :=
    calc _ ≤ 10 ^ (count + 1) * 10 ^ (cut + 1) := Nat.mul_le_mul_right _ high
      _ = 10 ^ (places + 1) := parts'.symm
      _ ≤ 10 ^ 16 := Nat.pow_le_pow_right (by norm_num) few
  have other : roundQuotient .toEven m (10 ^ (cut + 1)) * 10 ^ (cut + 1) ≠ m := fun same =>
    hcut (same ▸ Nat.dvd_mul_left _ _)
  rw [significant_whole negative hm hlt hlow hhigh hplaces]
  generalize roundQuotient .toEven m (10 ^ (cut + 1)) = n at *
  dsimp only
  split
  · -- A carry through all digits: the same number with a digit less.
    obtain rfl : n = 10 ^ (count + 1) := by omega
    have tenth : 10 ^ (count + 1) / 10 = 10 ^ count := by rw [pow_succ, Nat.mul_div_cancel _ (by norm_num)]
    have product : 10 ^ (count + 1) * 10 ^ (cut + 1) = 10 ^ count * 10 ^ (cut + 1 + 1) := by ring
    have length := length_digitsOf (n := 10 ^ count) (Nat.le_refl _) (Nat.pow_lt_pow_right (by norm_num) (by omega))
    have exponent : ((places : Int) + 2 - ((count + 1 : ℕ) : Int)) = ((cut + 1 + 1 : ℕ) : Int) := by omega
    rw [product] at small other
    dsimp only
    rw [tenth, ofDigits_digitsOf, length, exponent]
    exact not_readsBack_whole negative hm hlt (Nat.pow_pos (by norm_num)) small other
  · have length := length_digitsOf low (by omega)
    have exponent : ((places : Int) + 1 - ((count + 1 : ℕ) : Int)) = ((cut + 1 : ℕ) : Int) := by omega
    have pos : 0 < n := Nat.lt_of_lt_of_le (Nat.pow_pos (by norm_num)) low
    dsimp only
    rw [ofDigits_digitsOf, length, exponent]
    exact not_readsBack_whole negative hm hlt pos small other

theorem shortestFrom_whole (negative : Bool) {digits zeros rest : Nat} (hdigits : ¬ 10 ∣ digits)
    (hlow : 10 ^ rest ≤ digits) (hhigh : digits < 10 ^ (rest + 1)) (hlt : digits * 10 ^ zeros < 2 ^ 53)
    {more count : Nat} (hcount : count ≤ rest) (enough : rest ≤ count + more) :
    (Binary.whole negative (digits * 10 ^ zeros) 0).shortestFrom more (count + 1) =
      ⟨digitsOf digits, (rest + zeros : ℕ) + 1⟩ := by
  have full := significant_full negative hlow hhigh hlt
  induction more generalizing count with
  | zero =>
    obtain rfl : count = rest := by omega
    exact full
  | succ more ih =>
    unfold Binary.shortestFrom
    dsimp only
    rcases Nat.lt_or_eq_of_le hcount with shorter | rfl
    · obtain ⟨pos, low, high⟩ := whole_bounds hlow hhigh
      obtain ⟨cut, hcut⟩ : ∃ cut, rest = count + (cut + 1) := ⟨rest - count - 1, by omega⟩
      have indivisible : ¬ 10 ^ (zeros + cut + 1) ∣ digits * 10 ^ zeros := by
        intro divides
        rw [Nat.add_assoc, pow_add, Nat.mul_comm] at divides
        have := Nat.dvd_of_mul_dvd_mul_right (Nat.pow_pos (by norm_num)) divides
        exact hdigits ((dvd_pow_self 10 (Nat.succ_ne_zero cut)).trans this)
      have places : count + 1 + (zeros + cut + 1) = rest + zeros + 1 := by omega
      rw [not_readsBack_short negative pos hlt low high places indivisible, if_neg Bool.false_ne_true]
      exact ih (by omega) (by omega)
    · rw [full, readsBack_full negative hlow hhigh hlt, if_pos rfl]

/-! ## The text of whole numbers -/

theorem text_digits {digits rest : Nat} (zeros : Nat) (hlow : 10 ^ rest ≤ digits) (hhigh : digits < 10 ^ (rest + 1))
    (short : rest + zeros < 21) :
    Decimal.text ⟨digitsOf digits, (rest + zeros : ℕ) + 1⟩ = toString (digits * 10 ^ zeros) := by
  have length := length_digitsOf hlow hhigh
  have point : (((rest + zeros : ℕ) : Int) + 1).toNat = rest + 1 + zeros := by omega
  have value : Nat.ofDigitChars 10 (List.replicate zeros '0') digits = digits * 10 ^ zeros := by
    rw [Nat.ofDigitChars_replicate_zero, Nat.mul_comm]
  have pos : 0 < digits := Nat.lt_of_lt_of_le (Nat.pow_pos (by norm_num)) hlow
  unfold Decimal.text
  rw [if_pos (by simp only [Bool.and_eq_true, decide_eq_true_eq]; omega)]
  unfold positional
  dsimp only
  rw [if_neg (by omega), length, point, if_pos (by omega), Nat.add_sub_cancel_left]
  apply String.toList_inj.mp
  rw [String.toList_append, toList_zeros, Nat.toString_eq_ofList_toDigits, String.toList_ofList, ← value,
    toDigits_ofDigitChars_append (digits_replicate zeros) pos]
  exact congrArg (· ++ List.replicate zeros '0') (toList_digitText (digits_toDigits digits))

theorem text_ofDecimal_whole (negative : Bool) {m : Nat} (hm : 0 < m) (hlt : m < 2 ^ 53) :
    text (ofDecimal negative m 0) = (if negative then "-" else "") ++ toString m := by
  obtain ⟨zeros, digits, hdigits, parts⟩ := Nat.exists_eq_pow_mul_and_not_dvd hm.ne' 10 (by norm_num)
  rw [Nat.mul_comm] at parts
  subst parts
  have pos : 0 < digits := Nat.pos_of_mul_pos_right hm
  have hlow := Nat.pow_log_le_self 10 pos.ne'
  have hhigh := Nat.lt_pow_succ_log_self (b := 10) (by norm_num) digits
  have few : Nat.log 10 digits + zeros < 16 := by
    have low : 10 ^ (Nat.log 10 digits + zeros) ≤ digits * 10 ^ zeros := (whole_bounds hlow hhigh).2.1
    exact (Nat.pow_lt_pow_iff_right (by norm_num)).mp (low.trans_lt (hlt.trans (by norm_num)))
  have read := toBinary?_ofDecimal_whole (k := 0) negative hm hlt (by norm_num)
  rw [pow_zero, mul_one] at read
  have mantissa : (Binary.whole negative (digits * 10 ^ zeros) 0).mantissa ≠ 0 := by
    have := (Binary.whole_mantissa (k := 0) negative hm hlt).1
    omega
  have enough : Nat.log 10 digits ≤ 0 + 16 := by omega
  have shortest : (Binary.whole negative (digits * 10 ^ zeros) 0).shortest = _ :=
    shortestFrom_whole negative hdigits hlow hhigh hlt (Nat.zero_le _) enough
  unfold text
  rw [read]
  dsimp only
  rw [if_neg mantissa, shortest, text_digits zeros hlow hhigh (by omega)]
  rfl

theorem toString_neg {m : Nat} (h : 0 < m) : toString (-(m : Int)) = "-" ++ toString m := by
  obtain ⟨m, rfl⟩ := Nat.exists_eq_succ_of_ne_zero h.ne'
  rfl

namespace Numeral

/-- The integer that a numeral without a fraction and a power writes. -/
def integer (n : Numeral) : Int :=
  if n.negative then -(Nat.ofDigitChars 10 n.whole 0 : Int) else Nat.ofDigitChars 10 n.whole 0

theorem toDigits_whole (n : Numeral) : Nat.toDigits 10 (Nat.ofDigitChars 10 n.whole 0) = n.whole := by
  obtain ⟨c, cs, hwhole⟩ := List.exists_cons_of_ne_nil n.whole_ne
  have lead : c = '0' → cs = [] := by
    rintro rfl
    have single := n.lead (by rw [hwhole]; rfl)
    rw [hwhole] at single
    exact (List.cons.inj single).2
  rw [hwhole]
  exact toDigits_ofDigitChars (hwhole ▸ n.isWhole) lead

variable {n : Numeral} (hfraction : n.fraction = []) (hpower : n.power = none)
include hfraction hpower

theorem float_integer : n.float = ofDecimal n.negative (Nat.ofDigitChars 10 n.whole 0) 0 := by
  unfold float
  rw [hfraction, hpower, List.append_nil]
  rfl

theorem isFinite_integer (small : n.integer.natAbs < 2 ^ 53) : n.float.isFinite = true := by
  rw [float_integer hfraction hpower, isFinite_eq]
  unfold integer at small
  generalize Nat.ofDigitChars 10 n.whole 0 = m at *
  rcases Nat.eq_zero_or_pos m with rfl | pos
  · cases n.negative <;> rfl
  · have read := toBinary?_ofDecimal_whole (k := 0) n.negative pos (by split at small <;> omega) (by norm_num)
    rw [pow_zero, mul_one] at read
    rw [read]
    rfl

theorem text_integer (small : n.integer.natAbs < 2 ^ 53) : Number.text n.float = toString n.integer := by
  rw [float_integer hfraction hpower]
  unfold integer at small ⊢
  generalize Nat.ofDigitChars 10 n.whole 0 = m at *
  rcases Nat.eq_zero_or_pos m with rfl | pos
  · cases n.negative <;> rfl
  · rw [text_ofDecimal_whole n.negative pos (by split at small <;> omega)]
    cases n.negative with
    | true => exact (toString_neg pos).symm
    | false => exact String.empty_append

theorem toString_integer_suffix : (toString n.integer).toList <:+ n.chars := by
  have digits : (toString (Nat.ofDigitChars 10 n.whole 0)).toList = n.whole := by
    rw [Nat.toString_eq_ofList_toDigits, String.toList_ofList, toDigits_whole]
  have chars : n.chars = n.sign ++ n.whole := by
    rw [Numeral.chars, pointed, tail, hfraction, hpower, if_pos rfl, List.append_nil]
    exact List.append_nil _
  rw [chars, sign, integer]
  cases n.negative with
  | false => exact ⟨[], digits⟩
  | true =>
    rw [if_pos rfl, if_pos rfl]
    rcases Nat.eq_zero_or_pos (Nat.ofDigitChars 10 n.whole 0) with zero | pos
    · exact ⟨['-'], by rw [zero] at digits ⊢; rw [← digits]; rfl⟩
    · exact ⟨[], by rw [toString_neg pos, String.toList_append, digits]; rfl⟩

omit hfraction hpower

/-- The numeral of an integer. -/
def ofInt (i : Int) : Numeral where
  negative := i < 0
  whole := Nat.toDigits 10 i.natAbs
  fraction := []
  power := none
  whole_ne := Nat.toDigits_ne_nil
  isWhole := digits_toDigits i.natAbs
  isFraction := nofun
  lead zero := by
    by_cases h : i.natAbs = 0
    · rw [h]
      rfl
    · exact absurd zero (head?_toDigits h)

theorem integer_ofInt (i : Int) : (ofInt i).integer = i := by
  unfold integer
  dsimp only [ofInt]
  rw [Nat.ofDigitChars_ten_toDigits]
  simp only [decide_eq_true_eq]
  split <;> omega

theorem chars_ofInt (i : Int) : (ofInt i).chars = (toString i).toList := by
  have digits (n : Nat) : (toString n).toList = Nat.toDigits 10 n := by
    rw [Nat.toString_eq_ofList_toDigits, String.toList_ofList]
  have chars : (ofInt i).chars = (ofInt i).sign ++ Nat.toDigits 10 i.natAbs :=
    (List.append_nil _).trans (List.append_nil _)
  rw [chars, ← digits, sign]
  rcases Int.lt_or_le i 0 with negative | nonneg
  · obtain ⟨m, pos, rfl⟩ : ∃ m : Nat, 0 < m ∧ i = -(m : Int) := ⟨i.natAbs, by omega, by omega⟩
    rw [if_pos (show (ofInt (-(m : Int))).negative = true from decide_eq_true negative), toString_neg pos,
      String.toList_append, Int.natAbs_neg, Int.natAbs_natCast]
    rfl
  · obtain ⟨m, rfl⟩ := Int.eq_ofNat_of_zero_le nonneg
    rw [if_neg (by simp [ofInt]), Int.natAbs_natCast]
    rfl

end Numeral

end BrainHost.Number
