import LoraGateway.Proofs.Checked.Text

/-!
# Hexadecimal texts

Which texts are read in hexadecimal, and as what, is told by the digits in their order: the digit of
a value is the one at its place in a row of sixteen (`IsDigitOf`), and a byte is spelled by two of
them, the high one first (`SpellsBytes`). Reading and writing are inverse to each other up to blanks
around a text and the case of its letters.

* `ofPairs?_eq_some_iff_spells`: what is read is what is spelled, by induction on the pairs;
* `decode?_inverse`: what is read of a text, and what is written for a byte string.
-/

namespace LoraGateway.Hex

/-- The digits in their order, with upper-case letters. -/
def upperDigits : List Char :=
  ['0', '1', '2', '3', '4', '5', '6', '7', '8', '9', 'A', 'B', 'C', 'D', 'E', 'F']

/-- The digits in their order, with lower-case letters. -/
def lowerDigits : List Char :=
  ['0', '1', '2', '3', '4', '5', '6', '7', '8', '9', 'a', 'b', 'c', 'd', 'e', 'f']

/-- The character is the digit of the value, in either letter case. -/
def IsDigitOf (c : Char) (value : Nat) : Prop :=
  upperDigits[value]? = some c ∨ lowerDigits[value]? = some c

instance (c : Char) (value : Nat) : Decidable (IsDigitOf c value) :=
  inferInstanceAs (Decidable (_ ∨ _))

/-- The characters are two digits for each byte, which spell it, the high one first. -/
structure SpellsBytes (cs : List Char) (bs : Bytes) : Prop where
  length : cs.length = 2 * bs.length
  pair : ∀ i (h : i < bs.length), ∃ c d high low, cs[2 * i]? = some c ∧ cs[2 * i + 1]? = some d ∧
    IsDigitOf c high ∧ IsDigitOf d low ∧ bs[i].toNat = 16 * high + low

theorem digit_eq {n : Nat} (h : n < 16) :
    upperDigits[n]? = some (digit n) ∧ lowerDigits[n]? = some (digit n).toLower := by
  revert n
  decide

theorem lt_of_isDigitOf {c : Char} {n : Nat} (h : IsDigitOf c n) : n < 16 := by
  obtain h | h := h
  · exact (List.getElem?_eq_some_iff.1 h).1
  · exact (List.getElem?_eq_some_iff.1 h).1

/-- The digits are read as what they stand for, and nothing else is. -/
theorem ofDigit?_eq_some_iff_isDigitOf {c : Char} {n : Nat} :
    ofDigit? c = some n ↔ IsDigitOf c n := by
  rw [ofDigit?_eq_some_iff]
  constructor
  · rintro ⟨hn, hc⟩
    obtain ⟨hupper, hlower⟩ := digit_eq hn
    obtain rfl | rfl := eq_or_eq_toLower hn hc
    · exact .inl hupper
    · exact .inr hlower
  · intro h
    have hn := lt_of_isDigitOf h
    obtain ⟨hupper, hlower⟩ := digit_eq hn
    have hcase : ∀ n < 16, (digit n).toUpper = digit n ∧ (digit n).toLower.toUpper = digit n := by
      decide
    refine ⟨hn, ?_⟩
    obtain h | h := h
    · rw [hupper, Option.some_inj] at h
      rw [← h, (hcase n hn).1]
    · rw [hlower, Option.some_inj] at h
      rw [← h, (hcase n hn).2]

namespace SpellsBytes

variable {c d : Char} {cs : List Char} {b : UInt8} {bs : Bytes}

theorem cons_iff : SpellsBytes (c :: d :: cs) (b :: bs) ↔
    (∃ high low, IsDigitOf c high ∧ IsDigitOf d low ∧ b.toNat = 16 * high + low) ∧
      SpellsBytes cs bs := by
  constructor
  · rintro ⟨hlength, hpair⟩
    constructor
    · obtain ⟨_, _, high, low, hc, hd, hhigh, hlow, hb⟩ := hpair 0 (Nat.succ_pos _)
      cases hc
      cases hd
      exact ⟨high, low, hhigh, hlow, hb⟩
    · refine ⟨?_, fun i hi => hpair (i + 1) (Nat.succ_lt_succ hi)⟩
      simp only [List.length_cons] at hlength
      omega
  · rintro ⟨⟨high, low, hhigh, hlow, hb⟩, hlength, hpair⟩
    refine ⟨?_, fun i hi => ?_⟩
    · simp only [List.length_cons]
      omega
    · cases i with
      | zero => exact ⟨c, d, high, low, rfl, rfl, hhigh, hlow, hb⟩
      | succ i => exact hpair i (Nat.lt_of_succ_lt_succ hi)

end SpellsBytes

/-- What is read of digits is what they spell. -/
theorem ofPairs?_eq_some_iff_spells {cs : List Char} {bs : Bytes} :
    ofPairs? cs = some bs ↔ SpellsBytes cs bs := by
  induction cs using ofPairs?.induct generalizing bs with
  | case1 =>
    rw [ofPairs?, Option.some_inj]
    constructor
    · rintro rfl
      exact ⟨rfl, fun i hi => absurd hi (Nat.not_lt_zero i)⟩
    · intro h
      have hlength : 0 = 2 * bs.length := h.length
      exact (List.length_eq_zero_iff.1 (by omega)).symm
  | case2 c =>
    refine iff_of_false (Option.some_ne_none bs).symm fun h => ?_
    have hlength : 1 = 2 * bs.length := h.length
    omega
  | case3 high low rest ih =>
    rw [ofPairs?_cons_eq_some_iff]
    constructor
    · rintro ⟨h, l, tail, hhigh, hlow, hrest, rfl⟩
      rw [ofDigit?_eq_some_iff_isDigitOf] at hhigh hlow
      have hh := lt_of_isDigitOf hhigh
      have hl := lt_of_isDigitOf hlow
      have hvalue : (UInt8.ofNat (16 * h + l)).toNat = 16 * h + l :=
        UInt8.toNat_ofNat_of_lt' (show 16 * h + l < 256 by omega)
      exact SpellsBytes.cons_iff.2 ⟨⟨h, l, hhigh, hlow, hvalue⟩, ih.1 hrest⟩
    · intro hspells
      cases bs with
      | nil => cases hspells.length
      | cons b bs =>
        obtain ⟨⟨h, l, hhigh, hlow, hb⟩, hrest⟩ := SpellsBytes.cons_iff.1 hspells
        refine ⟨h, l, bs, ofDigit?_eq_some_iff_isDigitOf.2 hhigh,
          ofDigit?_eq_some_iff_isDigitOf.2 hlow, ih.2 hrest, ?_⟩
        rw [← hb, UInt8.ofNat_toNat]

variable {s : String} {bs : Bytes}

theorem decode?_eq_some_iff : decode? s = some bs ↔ SpellsBytes (Text.trim s.toList) bs :=
  ofPairs?_eq_some_iff_spells

/-- Nothing is read of a text with something in it that is not ASCII, or with a blank inside. -/
theorem decode?_eq_none {c : Char} (hc : c ∈ Text.trim s.toList)
    (h : 128 ≤ c.toNat ∨ Text.isBlank c = true) : decode? s = none := by
  refine ofPairs?_eq_none hc ?_
  obtain hhigh | hblank := h
  · exact isDigit_of_not_ascii hhigh
  · have hdigits : (digits.all fun d => !Text.isBlank d) = true := by decide +kernel
    rw [← Bool.not_eq_true, isDigit_iff_mem]
    intro hmem
    have hc := List.all_eq_true.1 hdigits c hmem
    rw [hblank] at hc
    cases hc

theorem mem_upperDigits_of_mem_encode {c : Char} (h : c ∈ encode bs) : c ∈ upperDigits := by
  obtain ⟨n, hn, rfl⟩ := exists_digit_of_mem_encode h
  exact List.mem_of_getElem? (digit_eq hn).1

theorem text_append (bs cs : Bytes) : text (bs ++ cs) = text bs ++ text cs := by
  rw [text, encode, List.flatMap_append, String.ofList_append]
  rfl

/-- What is read of a text is written as the text, without the blanks around it and with upper-case
    letters. -/
theorem text_of_decode? (h : decode? s = some bs) :
    text bs = String.ofList ((Text.trim s.toList).map Char.toUpper) := by
  rw [text, ofPairs?_eq_some_iff.1 h]

/-- A text is read as a byte string if and only if, without the blanks around it, it is two digits
    for each byte that spell it, in either letter case; neither something that is not ASCII nor a
    blank may stand inside, and reading pairs of its bytes comes to the same. What is written for a
    byte string is two upper-case digits for each byte, which read back, and for two byte strings it
    is one text behind the other. What is read of a text is written as the text, up to blanks around
    it and the case of its letters. -/
theorem decode?_inverse :
    (∀ s, (∀ bs, decode? s = some bs ↔ SpellsBytes (Text.trim s.toList) bs) ∧
      (∀ c ∈ Text.trim s.toList, 128 ≤ c.toNat ∨ Text.isBlank c = true → decode? s = none) ∧
      Checked.Agrees (Checked.hexBytes (Utf8.encode (Text.trim s.toList)))
        (Checked.reading (decode? s))) ∧
    (∀ bs, decode? (text bs) = some bs ∧ (text bs).length = 2 * bs.length ∧
      ∀ c ∈ (text bs).toList, c ∈ upperDigits) ∧
    (∀ bs cs, text (bs ++ cs) = text bs ++ text cs) ∧
    ∀ s bs, decode? s = some bs →
      text bs = String.ofList ((Text.trim s.toList).map Char.toUpper) := by
  refine ⟨fun s => ⟨fun bs => decode?_eq_some_iff, fun c hc => decode?_eq_none hc,
    Checked.agrees_hexBytes _⟩, fun bs => ⟨decode?_text bs, ?_, fun c hc => ?_⟩, text_append,
    fun s bs => text_of_decode?⟩
  · rw [text, String.length_ofList, length_encode]
  · rw [text, String.toList_ofList] at hc
    exact mem_upperDigits_of_mem_encode hc

/-- Digits of both letter cases between blanks of three kinds; a text of four bytes that are no four
    digits, and one with a blank between its digits. -/
theorem decode?_inverse_spaced :
    decode? "\u2003\t48c0D6\u0085" = some [0x48, 0xC0, 0xD6] ∧
    text [0x48, 0xC0, 0xD6] = "48C0D6" ∧
    (Utf8.encode (Text.trim "\u00E9\u00E9".toList)).length = 4 ∧
    decode? "\u00E9\u00E9" = none ∧ decode? "48 0D6A" = none := by
  have hread : decode? "\u2003\t48c0D6\u0085" = some [0x48, 0xC0, 0xD6] := by decide +kernel
  refine ⟨hread, ?_, by decide +kernel, ?_, ?_⟩
  · rw [decode?_inverse.2.2.2 _ _ hread]
    decide +kernel
  · exact (decode?_inverse.1 "\u00E9\u00E9").2.1 '\u00E9' (by decide +kernel) (by decide)
  · exact (decode?_inverse.1 "48 0D6A").2.1 ' ' (by decide +kernel) (by decide)

end LoraGateway.Hex
