import LoraGateway.Proofs.Hexadecimal
import Mathlib.Data.List.Forall2

/-!
# What is read in hexadecimal

A character is a digit if its upper-case form is one that is written (`Hex.ofDigit?_eq_some_iff`).
Hence a text is read as a byte string if and only if it is what is written for the byte string, up
to the case of its letters (`Hex.ofPairs?_eq_some_iff`), and it is read at all if and only if it
consists of an even number of digits (`Hex.exists_ofPairs?_iff`). A number is read of digits as what
they stand for in base 16, one after the other (`Hex.number?_eq_some_iff`).
-/

namespace LoraGateway.Hex

/-- The digits in both letter cases. -/
def digits : List Char :=
  ['0', '1', '2', '3', '4', '5', '6', '7', '8', '9', 'A', 'B', 'C', 'D', 'E', 'F',
    'a', 'b', 'c', 'd', 'e', 'f']

/-! ## Digits -/

/-- Nothing but ASCII is a digit, or changed by the letter case. -/
theorem ofDigit?_of_not_ascii {c : Char} (h : 128 ≤ c.toNat) :
    ofDigit? c = none ∧ c.toUpper = c := by
  have hval : c.val.toNat = c.toNat := rfl
  have hle (d : Char) (hd : d.toNat < 128) : ¬c ≤ d := by
    rw [Char.le_def, UInt32.le_iff_toNat_le, hval]
    exact Nat.not_le.2 (Nat.lt_of_lt_of_le hd h)
  constructor
  · rw [ofDigit?, if_neg fun hc => hle '9' (by decide) hc.2,
      if_neg fun hc => hle 'f' (by decide) hc.2, if_neg fun hc => hle 'F' (by decide) hc.2]
  · exact dif_neg fun hc => hle 'z' (by decide) hc.2

/-- The digits are the characters whose upper-case form is written for their value. -/
theorem ofDigit?_eq_some_iff {c : Char} {n : Nat} :
    ofDigit? c = some n ↔ n < 16 ∧ c.toUpper = digit n := by
  have hascii : ∀ m < 128, (∀ n < 16,
      ofDigit? (Char.ofNat m) = some n ↔ (Char.ofNat m).toUpper = digit n) ∧
      (ofDigit? (Char.ofNat m)).all (· < 16) = true := by
    decide +kernel
  have hdigit : ∀ n < 16, (digit n).toNat < 128 := by decide
  by_cases hc : c.toNat < 128
  · obtain ⟨hiff, hall⟩ := hascii c.toNat hc
    rw [Char.ofNat_toNat] at hiff hall
    constructor
    · intro h
      have hn : n < 16 := by simpa [h] using hall
      exact ⟨hn, (hiff n hn).1 h⟩
    · rintro ⟨hn, h⟩
      exact (hiff n hn).2 h
  · obtain ⟨hnone, hupper⟩ := ofDigit?_of_not_ascii (Nat.not_lt.1 hc)
    rw [hnone, hupper]
    refine iff_of_false nofun ?_
    rintro ⟨hn, rfl⟩
    exact hc (hdigit n hn)

/-- There are two characters with the same upper-case form at most. -/
theorem eq_or_eq_toLower {c : Char} {n : Nat} (hn : n < 16) (h : c.toUpper = digit n) :
    c = digit n ∨ c = (digit n).toLower := by
  have hascii : ∀ m < 128, ∀ n < 16, (Char.ofNat m).toUpper = digit n →
      Char.ofNat m = digit n ∨ Char.ofNat m = (digit n).toLower := by
    decide +kernel
  by_cases hc : c.toNat < 128
  · rw [← Char.ofNat_toNat c] at h ⊢
    exact hascii c.toNat hc n hn h
  · left
    rw [← h, (ofDigit?_of_not_ascii (Nat.not_lt.1 hc)).2]

theorem isDigit_of_not_ascii {c : Char} (h : 128 ≤ c.toNat) : isDigit c = false := by
  rw [isDigit, (ofDigit?_of_not_ascii h).1]
  rfl

theorem isDigit_iff_mem {c : Char} : isDigit c = true ↔ c ∈ digits := by
  have hascii : ∀ m < 128, isDigit (Char.ofNat m) = true ↔ Char.ofNat m ∈ digits := by
    decide +kernel
  have hdigits : digits.all (·.toNat < 128) = true := by decide +kernel
  by_cases hc : c.toNat < 128
  · have hiff := hascii c.toNat hc
    rwa [Char.ofNat_toNat] at hiff
  · rw [isDigit_of_not_ascii (Nat.not_lt.1 hc)]
    exact iff_of_false nofun fun h => hc (of_decide_eq_true (List.all_eq_true.1 hdigits c h))

/-! ## Pairs of digits -/

theorem ofPairs?_cons_eq_some_iff {high low : Char} {rest : List Char} {bs : Bytes} :
    ofPairs? (high :: low :: rest) = some bs ↔ ∃ h l tail, ofDigit? high = some h ∧
      ofDigit? low = some l ∧ ofPairs? rest = some tail ∧ bs = UInt8.ofNat (16 * h + l) :: tail := by
  simp only [ofPairs?, Option.bind_eq_bind, Option.bind_eq_some_iff, Option.pure_def,
    Option.some_inj, exists_and_left, eq_comm (a := bs)]

theorem encode_cons (b : UInt8) (bs : Bytes) :
    encode (b :: bs) = digit (b.toNat / 16) :: digit (b.toNat % 16) :: encode bs :=
  rfl

/-- A text is read as the byte string that it is written for, in either letter case. -/
theorem ofPairs?_eq_some_iff {cs : List Char} {bs : Bytes} :
    ofPairs? cs = some bs ↔ cs.map Char.toUpper = encode bs := by
  induction cs using ofPairs?.induct generalizing bs with
  | case1 =>
    cases bs with
    | nil => simp [ofPairs?, encode]
    | cons b bs => simp [ofPairs?, encode_cons]
  | case2 c =>
    cases bs with
    | nil => simp [ofPairs?, encode]
    | cons b bs => simp [ofPairs?, encode_cons]
  | case3 high low rest ih =>
    rw [ofPairs?_cons_eq_some_iff]
    constructor
    · rintro ⟨h, l, tail, hhigh, hlow, hrest, rfl⟩
      obtain ⟨hh, hhigh⟩ := ofDigit?_eq_some_iff.1 hhigh
      obtain ⟨hl, hlow⟩ := ofDigit?_eq_some_iff.1 hlow
      have hvalue : (UInt8.ofNat (16 * h + l)).toNat = 16 * h + l := by
        rw [UInt8.toNat_ofNat', Nat.mod_eq_of_lt (by omega)]
      have hdiv : (16 * h + l) / 16 = h := by omega
      have hmod : (16 * h + l) % 16 = l := by omega
      rw [List.map_cons, List.map_cons, hhigh, hlow, ih.1 hrest, encode_cons, hvalue, hdiv, hmod]
    · intro h
      cases bs with
      | nil => cases h
      | cons b bs =>
        have hb := b.toNat_lt
        rw [encode_cons, List.map_cons, List.map_cons, List.cons.injEq, List.cons.injEq] at h
        obtain ⟨hhigh, hlow, hrest⟩ := h
        refine ⟨b.toNat / 16, b.toNat % 16, bs, ofDigit?_eq_some_iff.2 ⟨by omega, hhigh⟩,
          ofDigit?_eq_some_iff.2 ⟨by omega, hlow⟩, ih.2 hrest, ?_⟩
        rw [Nat.div_add_mod, UInt8.ofNat_toNat]

/-- What is read is an even number of digits. -/
theorem exists_ofPairs?_iff {cs : List Char} : (∃ bs, ofPairs? cs = some bs) ↔
    cs.length % 2 = 0 ∧ ∀ c ∈ cs, isDigit c = true := by
  induction cs using ofPairs?.induct with
  | case1 => simp [ofPairs?]
  | case2 c => simp [ofPairs?]
  | case3 high low rest ih =>
    have hlength : (high :: low :: rest).length % 2 = rest.length % 2 := by
      rw [List.length_cons, List.length_cons]
      omega
    have hread : (∃ bs, ofPairs? (high :: low :: rest) = some bs) ↔
        isDigit high = true ∧ isDigit low = true ∧ ∃ bs, ofPairs? rest = some bs := by
      simp only [ofPairs?_cons_eq_some_iff, isDigit, Option.isSome_iff_exists]
      constructor
      · rintro ⟨bs, h, l, tail, hhigh, hlow, hrest, -⟩
        exact ⟨⟨h, hhigh⟩, ⟨l, hlow⟩, tail, hrest⟩
      · rintro ⟨⟨h, hhigh⟩, ⟨l, hlow⟩, tail, hrest⟩
        exact ⟨_, h, l, tail, hhigh, hlow, hrest, rfl⟩
    rw [hread, ih, hlength]
    simp only [List.forall_mem_cons]
    tauto

/-- Nothing is read of characters of which one is no digit. -/
theorem ofPairs?_eq_none {cs : List Char} {c : Char} (hc : c ∈ cs) (h : isDigit c = false) :
    ofPairs? cs = none := by
  rw [Option.eq_none_iff_forall_ne_some]
  intro bs hbs
  rw [(exists_ofPairs?_iff.1 ⟨bs, hbs⟩).2 c hc] at h
  cases h

/-! ## Numbers -/

/-- A number is read of digits, which are those of its value in base 16. -/
theorem number?_eq_some_iff {cs : List Char} {n : Nat} : number? cs = some n ↔
    ∃ values, List.Forall₂ (fun c v => ofDigit? c = some v) cs values ∧
      values.foldl (fun n v => 16 * n + v) 0 = n := by
  have hvalues (values : List Nat) : cs.mapM ofDigit? = some values ↔
      List.Forall₂ (fun c v => ofDigit? c = some v) cs values := by
    induction cs generalizing values with
    | nil =>
      rw [List.mapM_nil, Option.pure_def, Option.some_inj, List.forall₂_nil_left_iff, eq_comm]
    | cons c cs ih =>
      simp only [List.mapM_cons, Option.bind_eq_bind, Option.bind_eq_some_iff, Option.pure_def,
        Option.some_inj, ih, List.forall₂_cons_left_iff, eq_comm (b := values), exists_and_left]
  rw [number?, Option.bind_eq_bind, Option.bind_eq_some_iff]
  simp only [hvalues, Option.pure_def, Option.some_inj]

end LoraGateway.Hex
