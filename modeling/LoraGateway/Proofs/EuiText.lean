import LoraGateway.Proofs.Field
import LoraGateway.Proofs.HexText
import Mathlib.Data.Nat.Digits.Defs
import Mathlib.Data.String.Basic

/-!
# Identifiers as texts

An identifier is read from sixteen digits in base 16 (`Eui.SpellsWord`), with blanks around the text
and separators anywhere in it. It is written in one form only, so that all texts of the same digits
come to the same text when they are read and written again (`Eui.digits_text_of_ofText?`). In this
form, texts are in the order of their identifiers: byte by byte, the order of the digits is that of
numbers (`Hex.intercalate_lt_iff`, `Bytes.beValue_lt_iff`).
-/

namespace LoraGateway

namespace Bytes

theorem leValue_append (as bs : Bytes) :
    leValue (as ++ bs) = leValue as + size as.length * leValue bs := by
  induction as with
  | nil => simp [leValue, size]
  | cons a as ih =>
    rw [List.cons_append, leValue, leValue, ih, List.length_cons, size, Nat.mul_add, Nat.mul_assoc,
      Nat.add_assoc]

theorem beValue_cons (b : UInt8) (bs : Bytes) :
    beValue (b :: bs) = beValue bs + size bs.length * b.toNat := by
  rw [beValue, List.reverse_cons, leValue_append, List.length_reverse, beValue]
  simp [leValue]

/-- Fields of the same width are in the order of their bytes, the most significant one first. -/
theorem beValue_lt_iff {bs cs : Bytes} (h : bs.length = cs.length) :
    beValue bs < beValue cs ↔ bs < cs := by
  induction bs generalizing cs with
  | nil =>
    obtain rfl := List.length_eq_zero_iff.1 h.symm
    exact iff_of_false (Nat.lt_irrefl _) (List.not_lt_nil _)
  | cons b bs ih =>
    cases cs with
    | nil => cases h
    | cons c cs =>
      have hlength : bs.length = cs.length := Nat.succ.inj h
      have hbs := beValue_lt bs
      have hcs := beValue_lt cs
      rw [List.cons_lt_cons_iff, ← ih hlength, beValue_cons, beValue_cons, ← hlength,
        UInt8.lt_iff_toNat_lt, ← UInt8.toNat_inj]
      rw [← hlength] at hcs
      -- A greater byte outweighs all the bytes behind it.
      rcases Nat.lt_trichotomy b.toNat c.toNat with hlt | heq | hgt
      · have hmul := Nat.mul_le_mul_left (size bs.length) hlt
        rw [Nat.mul_succ] at hmul
        exact iff_of_true (by omega) (.inl hlt)
      · simp [heq]
      · have hmul := Nat.mul_le_mul_left (size bs.length) hgt
        rw [Nat.mul_succ] at hmul
        exact iff_of_false (by omega) (by omega)

end Bytes

namespace Hex

theorem digit_lt_digit_iff {m n : Nat} (hm : m < 16) (hn : n < 16) :
    digit m < digit n ↔ m < n := by
  have hall : ∀ m < 16, ∀ n < 16, digit m < digit n ↔ m < n := by decide +kernel
  exact hall m hm n hn

theorem digit_inj {m n : Nat} (hm : m < 16) (hn : n < 16) : digit m = digit n ↔ m = n := by
  constructor
  · intro h
    rw [← Option.some_inj, ← ofDigit?_digit hm, h, ofDigit?_digit hn]
  · rintro rfl
    rfl

/-- Behind bytes, texts are in the order of the bytes, and behind the same byte in their own. -/
theorem byte_append_lt_iff {b c : UInt8} {cs ds : List Char} :
    byte b ++ cs < byte c ++ ds ↔ b < c ∨ b = c ∧ cs < ds := by
  have hb := b.toNat_lt
  have hc := c.toNat_lt
  rw [byte, byte, List.cons_append, List.cons_append, List.cons_append, List.cons_append,
    List.nil_append, List.nil_append, List.cons_lt_cons_iff, List.cons_lt_cons_iff,
    digit_lt_digit_iff (by omega) (by omega), digit_lt_digit_iff (by omega) (by omega),
    digit_inj (by omega) (by omega), digit_inj (by omega) (by omega), UInt8.lt_iff_toNat_lt,
    ← UInt8.toNat_inj]
  constructor
  · rintro (hhigh | ⟨hhigh, hlow | ⟨hlow, h⟩⟩)
    · exact .inl (by omega)
    · exact .inl (by omega)
    · exact .inr ⟨by omega, h⟩
  · rintro (hlt | ⟨heq, h⟩)
    · omega
    · rw [heq]
      exact .inr ⟨rfl, .inr ⟨rfl, h⟩⟩

/-- Bytes that are written with a separator between them are in the order of the bytes. -/
theorem intercalate_lt_iff {separator : Char} {bs cs : Bytes} (h : bs.length = cs.length) :
    [separator].intercalate (bs.map byte) < [separator].intercalate (cs.map byte) ↔ bs < cs := by
  induction bs generalizing cs with
  | nil =>
    obtain rfl := List.length_eq_zero_iff.1 h.symm
    exact iff_of_false (List.not_lt_nil _) (List.not_lt_nil _)
  | cons b bs ih =>
    cases cs with
    | nil => cases h
    | cons c cs =>
      have hlength : bs.length = cs.length := Nat.succ.inj h
      rw [List.cons_lt_cons_iff, ← ih hlength]
      -- Behind the first byte there is either nothing or a separator and the other bytes.
      match bs, cs, hlength with
      | [], [], _ =>
        rw [List.map_singleton, List.map_singleton, List.intercalate_singleton,
          List.intercalate_singleton, ← List.append_nil (byte b), ← List.append_nil (byte c),
          byte_append_lt_iff]
        rfl
      | b' :: bs, c' :: cs, _ =>
        simp only [List.map_cons, List.intercalate_cons_cons, List.append_assoc,
          byte_append_lt_iff, List.singleton_append, List.cons_lt_cons_iff, Char.lt_irrefl,
          false_or, true_and]

theorem length_intercalate (separator : Char) (b : UInt8) (bs : Bytes) :
    ([separator].intercalate ((b :: bs).map byte)).length = 2 + 3 * bs.length := by
  induction bs generalizing b with
  | nil => rfl
  | cons c bs ih =>
    rw [List.map_cons, List.map_cons, List.intercalate_cons_cons, ← List.map_cons,
      List.length_append, ih, List.length_append, byte]
    simp only [List.length_cons, List.length_nil]
    omega

/-- The case of its letters has no influence on the number that is read of a text. -/
theorem number?_map_toUpper {cs : List Char} {n : Nat} (h : number? cs = some n) :
    number? (cs.map Char.toUpper) = some n := by
  obtain ⟨values, hvalues, hn⟩ := number?_eq_some_iff.1 h
  refine number?_eq_some_iff.2 ⟨values, ?_, hn⟩
  rw [List.forall₂_map_left_iff]
  refine hvalues.imp fun c v hc => ?_
  obtain ⟨hv, hupper⟩ := ofDigit?_eq_some_iff.1 hc
  rw [hupper, ofDigit?_digit hv]

end Hex

namespace Eui

/-- The characters are sixteen digits that spell the word in base 16, the highest digit first. -/
def SpellsWord (cs : List Char) (word : UInt64) : Prop :=
  ∃ values, List.Forall₂ Hex.IsDigitOf cs values ∧ cs.length = 16 ∧
    Nat.ofDigits 16 values.reverse = word.toNat

/-- A number is put together from its highest digit on. -/
theorem foldl_eq_ofDigits (values : List Nat) :
    values.foldl (fun n v => 16 * n + v) 0 = Nat.ofDigits 16 values.reverse := by
  rw [Nat.ofDigits_eq_foldr, List.foldr_reverse]
  simp only [Nat.cast_id, Nat.add_comm]

theorem forall₂_isDigitOf_iff {cs : List Char} {values : List Nat} :
    List.Forall₂ (fun c v => Hex.ofDigit? c = some v) cs values ↔
      List.Forall₂ Hex.IsDigitOf cs values := by
  simp only [Hex.ofDigit?_eq_some_iff_isDigitOf]

theorem forall_of_isDigitOf {cs : List Char} {values : List Nat}
    (h : List.Forall₂ Hex.IsDigitOf cs values) :
    (∀ c ∈ cs, Hex.isDigit c = true) ∧ ∀ v ∈ values, v < 16 := by
  induction h with
  | nil => exact ⟨nofun, nofun⟩
  | cons hc _ ih =>
    rw [List.forall_mem_cons, List.forall_mem_cons]
    refine ⟨⟨?_, ih.1⟩, Hex.lt_of_isDigitOf hc, ih.2⟩
    rw [Hex.isDigit, Hex.ofDigit?_eq_some_iff_isDigitOf.2 hc]
    rfl

/-- Sixteen digits make a word. -/
theorem ofDigits_lt {cs : List Char} {values : List Nat}
    (h : List.Forall₂ Hex.IsDigitOf cs values) (hlength : cs.length = 16) :
    Nat.ofDigits 16 values.reverse < 2 ^ 64 := by
  have hdigits : ∀ v ∈ values.reverse, v < 16 :=
    fun v hv => (forall_of_isDigitOf h).2 v (List.mem_reverse.1 hv)
  have hlt := Nat.ofDigits_lt_base_pow_length (by decide : 1 < 16) hdigits
  rw [List.length_reverse, ← h.length_eq, hlength] at hlt
  exact hlt

namespace SpellsWord

variable {cs : List Char} {word : UInt64} (h : SpellsWord cs word)

include h

theorem length_eq : cs.length = 16 := by
  obtain ⟨_, _, hlength, _⟩ := h
  exact hlength

theorem isDigit : ∀ c ∈ cs, Hex.isDigit c = true := by
  obtain ⟨_, hvalues, _⟩ := h
  exact (forall_of_isDigitOf hvalues).1

theorem number?_eq : Hex.number? cs = some word.toNat := by
  obtain ⟨values, hvalues, -, hword⟩ := h
  rw [Hex.number?_eq_some_iff]
  exact ⟨values, forall₂_isDigitOf_iff.2 hvalues, by rw [foldl_eq_ofDigits, hword]⟩

/-- Up to the case of its letters, a word is spelled in one way. -/
theorem map_toUpper_eq : cs.map Char.toUpper = Hex.encode (Bytes.beBytes 8 word.toNat) := by
  have heven : cs.length % 2 = 0 := by rw [h.length_eq]
  -- Two by two, the digits spell eight bytes, of which the value is that of all digits.
  obtain ⟨bs, hbs⟩ := Hex.exists_ofPairs?_iff.2 ⟨heven, h.isDigit⟩
  rw [Hex.ofPairs?_eq_some_iff] at hbs
  have hvalue : Bytes.beValue bs = word.toNat := by
    have hnumber := Hex.number?_map_toUpper h.number?_eq
    rwa [hbs, Hex.number?_encode, Option.some_inj] at hnumber
  have hwidth : bs.length = 8 := by
    have hboth := congrArg List.length hbs
    rw [List.length_map, Hex.length_encode, h.length_eq] at hboth
    omega
  rw [hbs, ← hvalue, ← hwidth, Bytes.beBytes_beValue]

end SpellsWord

variable {s : String} {e e' : Eui}

/-- The identifiers that are read are those that are spelled. -/
theorem ofText?_eq_some_iff : ofText? s = some e ↔ SpellsWord (digits s) e.value := by
  rw [ofText?]
  constructor
  · intro h
    by_cases hlength : (digits s).length = 16
    · rw [if_pos hlength, Option.map_eq_some_iff] at h
      obtain ⟨n, hn, rfl⟩ := h
      obtain ⟨values, hvalues, hfold⟩ := Hex.number?_eq_some_iff.1 hn
      rw [forall₂_isDigitOf_iff] at hvalues
      rw [foldl_eq_ofDigits] at hfold
      have hlt := ofDigits_lt hvalues hlength
      rw [hfold] at hlt
      refine ⟨values, hvalues, hlength, ?_⟩
      rw [hfold, ofNat, UInt64.toNat_ofNat_of_lt' hlt]
    · rw [if_neg hlength] at h
      cases h
  · intro h
    rw [if_pos h.length_eq, h.number?_eq, Option.map_some, ofNat, UInt64.ofNat_toNat]

/-! ## The conversion -/

theorem exists_values {cs : List Char} (h : ∀ c ∈ cs, Hex.isDigit c = true) :
    ∃ values, List.Forall₂ (fun c v => Hex.ofDigit? c = some v) cs values := by
  induction cs with
  | nil => exact ⟨[], .nil⟩
  | cons c cs ih =>
    rw [List.forall_mem_cons] at h
    obtain ⟨v, hv⟩ := Option.isSome_iff_exists.1 h.1
    obtain ⟨values, hvalues⟩ := ih h.2
    exact ⟨v :: values, .cons hv hvalues⟩

/-- Digits are ASCII, so that they are counted in bytes as in characters. -/
theorem length_encode_of_isDigit {cs : List Char} (h : ∀ c ∈ cs, Hex.isDigit c = true) :
    (Utf8.encode cs).length = cs.length := by
  have hascii (c : Char) (hc : c ∈ cs) : c.toNat < 128 := by
    by_contra hhigh
    have hdigit := h c hc
    rw [Hex.isDigit_of_not_ascii (Nat.not_lt.1 hhigh)] at hdigit
    cases hdigit
  rw [Utf8.encode_of_ascii hascii, List.length_map]

/-- Behind the check of its digits, an identifier is always a word. -/
theorem exists_word?_eq_some {cs : List Char} (hlength : (Utf8.encode cs).length = 16)
    (h : ∀ c ∈ cs, Hex.isDigit c = true) : ∃ n, Checked.word? cs = some n := by
  obtain ⟨values, hvalues⟩ := exists_values h
  rw [length_encode_of_isDigit h] at hlength
  exact ⟨_, Checked.word?_eq_some hvalues hlength⟩

/-- With the digits counted in bytes and their word checked, the same identifier is read. -/
theorem eui?_eq_ofText? (s : String) : Checked.eui? s = ofText? s := by
  by_cases hdigits : ∀ c ∈ digits s, Hex.isDigit c = true
  · rw [Checked.eui?, ofText?, length_encode_of_isDigit hdigits]
    by_cases hlength : (digits s).length = 16
    · obtain ⟨values, hvalues⟩ := exists_values hdigits
      rw [if_pos ⟨hlength, List.all_eq_true.2 hdigits⟩, if_pos hlength,
        Checked.word?_eq_some hvalues hlength, Hex.number?_eq_some_iff.2 ⟨values, hvalues, rfl⟩]
    · rw [if_neg fun h => hlength h.1, if_neg hlength]
  · have hnone : ofText? s = none := by
      rw [Option.eq_none_iff_forall_ne_some]
      intro e he
      exact hdigits (ofText?_eq_some_iff.1 he).isDigit
    rw [Checked.eui?, if_neg fun h => hdigits (List.all_eq_true.1 h.2), hnone]

/-! ## The written form -/

theorem length_text (e : Eui) : e.text.length = 23 := by
  have hlength := Bytes.length_beBytes 8 e.value.toNat
  rw [text, String.length_ofList, chars]
  generalize Bytes.beBytes 8 e.value.toNat = bs at hlength
  cases bs with
  | nil => cases hlength
  | cons b bs =>
    have hrest : bs.length = 7 := Nat.succ.inj hlength
    rw [Hex.length_intercalate, hrest]

theorem text_eq_iff_digits : e.text = e'.text ↔ digits e.text = digits e'.text := by
  refine ⟨congrArg digits, fun h => ?_⟩
  rw [digits_text, digits_text] at h
  rw [text, text, chars, chars, Hex.encode_injective h]

/-- Written again, an identifier has the digits of the text that it was read from, with upper-case
    letters. -/
theorem digits_text_of_ofText? (h : ofText? s = some e) :
    digits e.text = (digits s).map Char.toUpper := by
  rw [digits_text, (ofText?_eq_some_iff.1 h).map_toUpper_eq]

theorem text_lt_iff : e.text < e'.text ↔ e.value < e'.value := by
  have hlength :
      (Bytes.beBytes 8 e.value.toNat).length = (Bytes.beBytes 8 e'.value.toNat).length := by
    rw [Bytes.length_beBytes, Bytes.length_beBytes]
  rw [text, text, String.lt_iff_toList_lt, String.toList_ofList, String.toList_ofList, chars, chars,
    Hex.intercalate_lt_iff hlength, ← Bytes.beValue_lt_iff hlength,
    Bytes.beValue_beBytes (k := 8) e.value.toNat_lt,
    Bytes.beValue_beBytes (k := 8) e'.value.toNat_lt, UInt64.lt_iff_toNat_lt]

/-- In their written form, identifiers are compared as numbers. -/
theorem compare_text (e e' : Eui) : compare e.text e'.text = compare e.value e'.value := by
  have heq : e.text = e'.text ↔ e.value = e'.value :=
    ⟨fun h => congrArg Eui.value (text_injective h), fun h => by rw [text, text, chars, chars, h]⟩
  have hstring (s s' : String) : compare s s' = compareOfLessAndEq s s' := rfl
  have hword (w w' : UInt64) : compare w w' = compareOfLessAndEq w w' := rfl
  rw [hstring, hword, compareOfLessAndEq, compareOfLessAndEq]
  simp only [text_lt_iff, heq]

/-- A text is read as an identifier if and only if, without the blanks around it and the separators,
    it is sixteen digits that spell the identifier in base 16. It makes no difference that they are
    counted in bytes and make a word in 64 bits, which never fails behind the check of the digits.
    The written form of an identifier has 23 characters and reads back, and written forms are in the
    order of the identifiers. What is read and written again depends on the digits of the text only,
    in either letter case. -/
theorem text_canonical :
    (∀ s, (∀ e, ofText? s = some e ↔ SpellsWord (digits s) e.value) ∧
      Checked.eui? s = ofText? s ∧
      ((Utf8.encode (digits s)).length = 16 → (∀ c ∈ digits s, Hex.isDigit c = true) →
        ∃ n, Checked.word? (digits s) = some n)) ∧
    (∀ e : Eui, e.text.length = 23 ∧ ofText? e.text = some e) ∧
    (∀ e e' : Eui, compare e.text e'.text = compare e.value e'.value) ∧
    ∀ s e, ofText? s = some e → digits e.text = (digits s).map Char.toUpper ∧
      ∀ s' e', ofText? s' = some e' →
        (e.text = e'.text ↔ (digits s).map Char.toUpper = (digits s').map Char.toUpper) := by
  refine ⟨fun s => ⟨fun e => ofText?_eq_some_iff, eui?_eq_ofText? s, exists_word?_eq_some⟩,
    fun e => ⟨length_text e, ofText?_text e⟩, compare_text, fun s e h => ?_⟩
  refine ⟨digits_text_of_ofText? h, fun s' e' h' => ?_⟩
  rw [text_eq_iff_digits, digits_text_of_ofText? h, digits_text_of_ofText? h']

/-- Two texts of the same digits, of which the first has blanks around it and separators at the ends
    and side by side; a blank that only the separators in front of it keep from the end; and sixteen
    bytes that are fifteen characters. -/
theorem text_canonical_scattered :
    ofText? "\u3000:A1-b2C3d4-:-E5f60718-\n" = some ⟨0xA1B2C3D4E5F60718⟩ ∧
    ofText? "a1b2c3d4e5f60718" = some ⟨0xA1B2C3D4E5F60718⟩ ∧
    digits (Eui.text ⟨0xA1B2C3D4E5F60718⟩) = "A1B2C3D4E5F60718".toList ∧
    (∃ n, Checked.word? (digits "\u3000:A1-b2C3d4-:-E5f60718-\n") = some n) ∧
    ofText? "- a1b2c3d4e5f60718" = none ∧
    (Utf8.encode (digits "a1b2c3d4e5f607\u00E9")).length = 16 ∧
    ofText? "a1b2c3d4e5f607\u00E9" = none := by
  have hscattered : ofText? "\u3000:A1-b2C3d4-:-E5f60718-\n" = some ⟨0xA1B2C3D4E5F60718⟩ := by
    decide +kernel
  have hplain : ofText? "a1b2c3d4e5f60718" = some ⟨0xA1B2C3D4E5F60718⟩ := by decide +kernel
  refine ⟨hscattered, hplain, ?_, ?_, by decide +kernel, by decide +kernel, by decide +kernel⟩
  · rw [(text_canonical.2.2.2 _ _ hplain).1]
    decide +kernel
  · exact (text_canonical.1 _).2.2 (by decide +kernel) (List.all_eq_true.1 (by decide +kernel))

end Eui

end LoraGateway
