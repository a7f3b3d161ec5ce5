import LoraGateway.Eui
import LoraGateway.Proofs.Trim
import Mathlib.Data.List.Induction

/-!
# What is written in hexadecimal

A byte string and an identifier are determined by what is written for them (`Hex.text_injective`,
`Eui.text_injective`): separators between bytes leave their digits alone (`Hex.filter_intercalate`).
What is written reads back, for a byte string (`Hex.decode?_text`) as for an identifier
(`Eui.ofText?_text`), since the digits of a byte string spell its value (`Hex.number?_encode`).
-/

namespace LoraGateway

namespace Hex

theorem encode_injective : Function.Injective encode := by
  intro bs cs h
  rw [← Option.some_inj, ← ofPairs?_encode, ← ofPairs?_encode, h]

theorem text_injective : Function.Injective text :=
  fun _ _ h => encode_injective (String.ofList_injective h)

theorem length_encode (bs : Bytes) : (encode bs).length = 2 * bs.length := by
  induction bs with
  | nil => rfl
  | cons b rest ih =>
    rw [encode, List.flatMap_cons, List.length_append, ← encode, ih, byte, List.length_cons]
    simp only [List.length_cons, List.length_nil]
    omega

theorem isBlank_digit {n : Nat} (h : n < 16) : Text.isBlank (digit n) = false := by
  revert n
  decide

theorem exists_digit_of_mem_encode {bs : Bytes} {c : Char} (h : c ∈ encode bs) :
    ∃ n < 16, c = digit n := by
  obtain ⟨b, -, hc⟩ := List.mem_flatMap.1 h
  have hb := b.toNat_lt
  rw [byte, List.mem_cons, List.mem_singleton] at hc
  rcases hc with rfl | rfl
  · exact ⟨b.toNat / 16, by omega, rfl⟩
  · exact ⟨b.toNat % 16, by omega, rfl⟩

/-- What is written for a byte string reads back as the byte string. -/
theorem decode?_text (bs : Bytes) : decode? (text bs) = some bs := by
  rw [decode?, text, String.toList_ofList, Text.trim_eq_self, ofPairs?_encode]
  intro c hc
  obtain ⟨n, hn, rfl⟩ := exists_digit_of_mem_encode hc
  exact isBlank_digit hn

/-- A further byte is a further two digits. -/
theorem number?_append_byte (cs : List Char) (b : UInt8) :
    number? (cs ++ byte b) = (number? cs).map fun n => 256 * n + b.toNat := by
  have hb := b.toNat_lt
  have hdigits : (byte b).mapM ofDigit? = some [b.toNat / 16, b.toNat % 16] := by
    simp [byte, ofDigit?_digit (show b.toNat / 16 < 16 by omega),
      ofDigit?_digit (show b.toNat % 16 < 16 by omega)]
  rw [number?, number?, List.mapM_append, hdigits]
  cases cs.mapM ofDigit? with
  | none => rfl
  | some ds =>
    have hvalue (n : Nat) : 16 * (16 * n + b.toNat / 16) + b.toNat % 16 = 256 * n + b.toNat := by
      omega
    simp [hvalue]

/-- The digits of a byte string spell the number that it stands for. -/
theorem number?_encode (bs : Bytes) : number? (encode bs) = some (Bytes.beValue bs) := by
  induction bs using List.reverseRecOn with
  | nil => rfl
  | append_singleton bs b ih =>
    have hdigits : encode (bs ++ [b]) = encode bs ++ byte b := by simp [encode]
    have hvalue : Bytes.beValue (bs ++ [b]) = 256 * Bytes.beValue bs + b.toNat := by
      rw [Bytes.beValue, List.reverse_concat, Bytes.leValue, Nat.add_comm]
      rfl
    rw [hdigits, number?_append_byte, ih, hvalue, Option.map_some]

section Separator

variable {separator : Char} {p : Char → Bool}

theorem filter_byte (hdigit : ∀ n < 16, p (digit n) = true) (b : UInt8) :
    (byte b).filter p = byte b := by
  have hb := b.toNat_lt
  rw [List.filter_eq_self]
  intro c hc
  rw [byte, List.mem_cons, List.mem_singleton] at hc
  rcases hc with rfl | rfl
  · exact hdigit _ (by omega)
  · exact hdigit _ (by omega)

/-- Without the separators between them, bytes are their digits. -/
theorem filter_intercalate (hseparator : p separator = false)
    (hdigit : ∀ n < 16, p (digit n) = true) (bs : Bytes) :
    ([separator].intercalate (bs.map byte)).filter p = encode bs := by
  induction bs with
  | nil => rfl
  | cons b rest ih =>
    -- A separator stands before every byte but the first.
    cases rest with
    | nil => simp [List.intercalate, encode, filter_byte hdigit]
    | cons c rest =>
      have hsingle : [separator].filter p = [] := by simp [hseparator]
      rw [List.map_cons, List.map_cons, List.intercalate_cons_cons, List.filter_append,
        List.filter_append, filter_byte hdigit, hsingle, ← List.map_cons, ih, List.append_nil]
      rfl

end Separator

end Hex

namespace Eui

theorem isSeparator_digit {n : Nat} (h : n < 16) : isSeparator (Hex.digit n) = false := by
  revert n
  decide

theorem filter_chars (e : Eui) :
    e.chars.filter (!isSeparator ·) = Hex.encode (Bytes.beBytes 8 e.value.toNat) :=
  Hex.filter_intercalate (by decide) (fun n hn => by rw [isSeparator_digit hn, Bool.not_false]) _

theorem text_injective : Function.Injective text := by
  intro e e' h
  have hbytes : Bytes.beBytes 8 e.value.toNat = Bytes.beBytes 8 e'.value.toNat := by
    apply Hex.encode_injective
    rw [← filter_chars, ← filter_chars, String.ofList_injective h]
  have hvalue : e.value.toNat = e'.value.toNat := by
    rw [← Bytes.beValue_beBytes (k := 8) e.value.toNat_lt, hbytes,
      Bytes.beValue_beBytes e'.value.toNat_lt]
  exact congrArg Eui.mk (UInt64.toNat_inj.1 hvalue)

/-- An identifier is written with digits and separators. -/
theorem separator_or_digit_of_mem_chars {e : Eui} {c : Char} (h : c ∈ e.chars) :
    (c = '-' ∨ c = ':') ∨ ∃ n < 16, c = Hex.digit n := by
  cases hseparator : isSeparator c with
  | true =>
    left
    rwa [isSeparator, Bool.or_eq_true, beq_iff_eq, beq_iff_eq] at hseparator
  | false =>
    have hdigit : c ∈ Hex.encode (Bytes.beBytes 8 e.value.toNat) := by
      rw [← filter_chars, List.mem_filter]
      exact ⟨h, by rw [hseparator, Bool.not_false]⟩
    exact .inr (Hex.exists_digit_of_mem_encode hdigit)

theorem isBlank_chars {e : Eui} {c : Char} (h : c ∈ e.chars) : Text.isBlank c = false := by
  rcases separator_or_digit_of_mem_chars h with (rfl | rfl) | ⟨n, hn, rfl⟩
  · rfl
  · rfl
  · exact Hex.isBlank_digit hn

theorem digits_text (e : Eui) : digits e.text = Hex.encode (Bytes.beBytes 8 e.value.toNat) := by
  rw [digits, text, String.toList_ofList, Text.trim_eq_self fun c => isBlank_chars, filter_chars]

/-- The written form of an identifier reads back as the identifier. -/
theorem ofText?_text (e : Eui) : ofText? e.text = some e := by
  have hlength : (digits e.text).length = 16 := by
    rw [digits_text, Hex.length_encode, Bytes.length_beBytes]
  rw [ofText?, if_pos hlength, digits_text, Hex.number?_encode,
    Bytes.beValue_beBytes (k := 8) e.value.toNat_lt, Option.map_some, ofNat, UInt64.ofNat_toNat]

end Eui

end LoraGateway
