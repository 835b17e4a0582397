import BrainHost.Text.Lossy

/-! # Texts that are read back

Bytes that are the UTF-8 of a text are read as that text: the bytes of a character are taken together,
whatever follows them, and give the character back. -/

namespace BrainHost.Text

theorem toList_loop (bytes : ByteArray) (i : Nat) (front : List UInt8) :
    ByteArray.toList.loop bytes i front = front.reverse ++ bytes.data.toList.drop i := by
  induction i, front using ByteArray.toList.loop.induct bytes with
  | case1 i front hi ih =>
    rw [ByteArray.toList.loop, if_pos hi, ih]
    have hi : i < bytes.data.toList.length := by simpa using hi
    rw [List.drop_eq_getElem_cons hi, List.reverse_cons, List.append_assoc, List.singleton_append]
    congr 2
    change bytes.data[i]! = _
    rw [getElem!_pos bytes.data i (by simpa using hi), Array.getElem_toList]
  | case2 i front hi =>
    have past : bytes.data.toList.length ≤ i := by simpa using hi
    rw [ByteArray.toList.loop, if_neg hi, List.drop_eq_nil_of_le past, List.append_nil]

theorem toList_data (bytes : ByteArray) : bytes.toList = bytes.data.toList := by
  rw [ByteArray.toList, toList_loop, List.reverse_nil, List.nil_append, List.drop_zero]

theorem toUTF8_data (text : String) : text.toUTF8.data.toList = text.toList.flatMap String.utf8EncodeChar := by
  obtain ⟨l, rfl⟩ : ∃ l, text = String.ofList l := ⟨text.toList, String.ofList_toList.symm⟩
  rw [String.toUTF8, String.toByteArray_ofList, String.toList_ofList]
  simp [List.utf8Encode]

/-! ## Characters -/

section

variable {b c d : UInt8} {low high : UInt8} {rest : List UInt8}

theorem toNat_ofNat_byte {n : Nat} (h : n < 256) : (UInt8.ofNat n).toNat = n := by
  rw [UInt8.toNat_ofNat']
  omega

theorem leadOf_eq (b : UInt8) : leadOf b =
    if 0xC2 ≤ b.toNat ∧ b.toNat < 0xE0 then some (2, 0x80, 0xBF)
    else if b.toNat = 0xE0 then some (3, 0xA0, 0xBF)
    else if b.toNat = 0xED then some (3, 0x80, 0x9F)
    else if 0xE1 ≤ b.toNat ∧ b.toNat < 0xF0 then some (3, 0x80, 0xBF)
    else if b.toNat = 0xF0 then some (4, 0x90, 0xBF)
    else if 0xF1 ≤ b.toNat ∧ b.toNat < 0xF4 then some (4, 0x80, 0xBF)
    else if b.toNat = 0xF4 then some (4, 0x80, 0x8F)
    else none := by
  unfold leadOf
  simp only [UInt8.le_iff_toNat_le, UInt8.lt_iff_toNat_lt, ← UInt8.toNat_inj, Bool.and_eq_true,
    decide_eq_true_eq]
  rfl

theorem between (h : low.toNat ≤ b.toNat) (h' : b.toNat ≤ high.toNat) : (low ≤ b && b ≤ high) = true := by
  rw [Bool.and_eq_true, decide_eq_true_eq, decide_eq_true_eq, UInt8.le_iff_toNat_le, UInt8.le_iff_toNat_le]
  exact ⟨h, h'⟩

theorem isContinuation_of (h : 0x80 ≤ b.toNat) (h' : b.toNat < 0xC0) : isContinuation b = true := by
  unfold isContinuation
  rw [Bool.and_eq_true, decide_eq_true_eq, decide_eq_true_eq, UInt8.le_iff_toNat_le, UInt8.lt_iff_toNat_lt]
  exact ⟨h, h'⟩

theorem tailOf_two (hb : (low ≤ b && b ≤ high) = true) : tailOf 2 low high (b :: rest) = [b] := by
  rw [tailOf, if_pos hb, Nat.sub_self, List.take_zero, List.takeWhile_nil]

theorem tailOf_three (hb : (low ≤ b && b ≤ high) = true) (hc : isContinuation c = true) :
    tailOf 3 low high (b :: c :: rest) = [b, c] := by
  rw [tailOf, if_pos hb]
  simp [hc]

theorem tailOf_four (hb : (low ≤ b && b ≤ high) = true) (hc : isContinuation c = true)
    (hd : isContinuation d = true) : tailOf 4 low high (b :: c :: d :: rest) = [b, c, d] := by
  rw [tailOf, if_pos hb]
  simp [hc, hd]

theorem readLossy_whole {length : Nat} (tail : List UInt8) (hb : 0x80 ≤ b.toNat)
    (hlead : leadOf b = some (length, low, high)) (htail : tailOf length low high (tail ++ rest) = tail)
    (hlength : tail.length + 1 = length) (n : Nat) (out : String) :
    readLossy (n + 1) (b :: (tail ++ rest)) out =
      readLossy n rest (out.push (Char.ofNat (pointOf b tail))) := by
  have large : ¬ b < 0x80 := by
    rw [UInt8.lt_iff_toNat_lt]
    exact Nat.not_lt.mpr hb
  rw [readLossy, if_neg large]
  simp only [hlead, htail]
  rw [if_pos hlength, List.drop_left]

/-! ### Characters of several bytes -/

variable {v : Nat} (n : Nat) (out : String)

theorem readLossy_two (hv : 0x80 ≤ v) (hv' : v < 0x800) (hb : b.toNat = v / 64 + 0xC0)
    (hc : c.toNat = v % 64 + 0x80) :
    readLossy (n + 1) (b :: c :: rest) out = readLossy n rest (out.push (Char.ofNat v)) := by
  have hlead : leadOf b = some (2, 0x80, 0xBF) := by rw [leadOf_eq, if_pos (by omega)]
  have within : (0x80 ≤ c && c ≤ 0xBF) = true := between (by show 0x80 ≤ _; omega) (by show _ ≤ 0xBF; omega)
  have point : pointOf b [c] = v := by
    simp only [pointOf, List.length_singleton, List.foldl_cons, List.foldl_nil, Nat.pow_eq, hb, hc]
    omega
  rw [← point]
  exact readLossy_whole [c] (by omega) hlead (tailOf_two within) rfl n out

theorem readLossy_three (hv : 0x800 ≤ v) (hv' : v < 0xD800 ∨ 0xDFFF < v ∧ v < 0x10000)
    (hb : b.toNat = v / 4096 + 0xE0) (hc : c.toNat = v / 64 % 64 + 0x80) (hd : d.toNat = v % 64 + 0x80) :
    readLossy (n + 1) (b :: c :: d :: rest) out = readLossy n rest (out.push (Char.ofNat v)) := by
  -- The second byte leaves out what two bytes can write and what stands for surrogates.
  obtain ⟨low, high, hlead, hlow, hhigh⟩ :
      ∃ low high, leadOf b = some (3, low, high) ∧ low.toNat ≤ c.toNat ∧ c.toNat ≤ high.toNat := by
    rw [leadOf_eq, if_neg (by omega)]
    by_cases first : v / 4096 = 0
    · rw [if_pos (by omega)]
      exact ⟨_, _, rfl, by show 0xA0 ≤ _; omega, by show _ ≤ 0xBF; omega⟩
    rw [if_neg (by omega)]
    by_cases before : v / 4096 = 13
    · rw [if_pos (by omega)]
      exact ⟨_, _, rfl, by show 0x80 ≤ _; omega, by show _ ≤ 0x9F; omega⟩
    rw [if_neg (by omega), if_pos (by omega)]
    exact ⟨_, _, rfl, by show 0x80 ≤ _; omega, by show _ ≤ 0xBF; omega⟩
  have point : pointOf b [c, d] = v := by
    simp only [pointOf, List.length_cons, List.length_nil, List.foldl_cons, List.foldl_nil, Nat.pow_eq, hb, hc, hd]
    omega
  rw [← point]
  have goesOn : isContinuation d = true := isContinuation_of (by omega) (by omega)
  exact readLossy_whole [c, d] (by omega) hlead (tailOf_three (between hlow hhigh) goesOn) rfl n out

theorem readLossy_four {e : UInt8} (hv : 0x10000 ≤ v) (hv' : v < 0x110000) (hb : b.toNat = v / 262144 + 0xF0)
    (hc : c.toNat = v / 4096 % 64 + 0x80) (hd : d.toNat = v / 64 % 64 + 0x80) (he : e.toNat = v % 64 + 0x80) :
    readLossy (n + 1) (b :: c :: d :: e :: rest) out = readLossy n rest (out.push (Char.ofNat v)) := by
  -- The second byte leaves out what three bytes can write and what is past the last character.
  obtain ⟨low, high, hlead, hlow, hhigh⟩ :
      ∃ low high, leadOf b = some (4, low, high) ∧ low.toNat ≤ c.toNat ∧ c.toNat ≤ high.toNat := by
    rw [leadOf_eq, if_neg (by omega), if_neg (by omega), if_neg (by omega), if_neg (by omega)]
    by_cases first : v / 262144 = 0
    · rw [if_pos (by omega)]
      exact ⟨_, _, rfl, by show 0x90 ≤ _; omega, by show _ ≤ 0xBF; omega⟩
    rw [if_neg (by omega)]
    by_cases before : v / 262144 < 4
    · rw [if_pos (by omega)]
      exact ⟨_, _, rfl, by show 0x80 ≤ _; omega, by show _ ≤ 0xBF; omega⟩
    rw [if_neg (by omega), if_pos (by omega)]
    exact ⟨_, _, rfl, by show 0x80 ≤ _; omega, by show _ ≤ 0x8F; omega⟩
  have point : pointOf b [c, d, e] = v := by
    simp only [pointOf, List.length_cons, List.length_nil, List.foldl_cons, List.foldl_nil, Nat.pow_eq, hb, hc, hd,
      he]
    omega
  rw [← point]
  have goesOn : isContinuation d = true := isContinuation_of (by omega) (by omega)
  have goesOn' : isContinuation e = true := isContinuation_of (by omega) (by omega)
  exact readLossy_whole [c, d, e] (by omega) hlead (tailOf_four (between hlow hhigh) goesOn goesOn') rfl n out

end

theorem readLossy_char (c : Char) (rest : List UInt8) (n : Nat) (out : String) :
    readLossy (n + 1) (String.utf8EncodeChar c ++ rest) out = readLossy n rest (out.push c) := by
  have range : c.val.toNat < 0xD800 ∨ 0xDFFF < c.val.toNat ∧ c.val.toNat < 0x110000 := c.valid
  have back : Char.ofNat c.val.toNat = c := Char.ofNat_toNat c
  have byte {m k : Nat} (hm : m = k) (hk : k < 256) : (UInt8.ofNat m).toNat = k := by
    rw [hm]
    exact toNat_ofNat_byte hk
  unfold String.utf8EncodeChar
  dsimp only
  generalize c.val.toNat = v at *
  rw [← back]
  split
  · have hb : (UInt8.ofNat v).toNat = v := byte rfl (by omega)
    have small : UInt8.ofNat v < 0x80 := by
      rw [UInt8.lt_iff_toNat_lt, hb]
      exact Nat.lt_succ_of_le (by assumption)
    rw [List.singleton_append, readLossy, if_pos small, hb]
  split
  · exact readLossy_two n out (by omega) (by omega) (byte (by omega) (by omega)) (byte rfl (by omega))
  split
  · exact readLossy_three n out (by omega) (by omega) (byte (by omega) (by omega)) (byte rfl (by omega))
      (byte rfl (by omega))
  · exact readLossy_four n out (by omega) (by omega) (byte (by omega) (by omega)) (byte rfl (by omega))
      (byte rfl (by omega)) (byte rfl (by omega))

/-! ## Texts -/

theorem readLossy_chars (cs : List Char) {n : Nat} (h : cs.length ≤ n) (out : String) :
    readLossy n (cs.flatMap String.utf8EncodeChar) out = out ++ String.ofList cs := by
  induction cs generalizing n out with
  | nil =>
    cases n with
    | zero => simp [readLossy]
    | succ n => simp [readLossy]
  | cons c cs ih =>
    obtain ⟨n, rfl⟩ : ∃ k, n = k + 1 := ⟨n - 1, by simp at h; omega⟩
    rw [List.flatMap_cons, readLossy_char, ih (by simpa using h)]
    apply String.toList_inj.mp
    simp

theorem length_le_utf8 (cs : List Char) : cs.length ≤ (cs.flatMap String.utf8EncodeChar).length := by
  induction cs with
  | nil => exact Nat.le_refl _
  | cons c cs ih =>
    have := c.utf8Size_pos
    rw [List.flatMap_cons, List.length_append, String.length_utf8EncodeChar, List.length_cons]
    omega

theorem lossy_toUTF8 (text : String) : lossy text.toUTF8.data.toList = text := by
  rw [lossy, toUTF8_data, readLossy_chars _ (length_le_utf8 _)]
  apply String.toList_inj.mp
  simp

end BrainHost.Text
