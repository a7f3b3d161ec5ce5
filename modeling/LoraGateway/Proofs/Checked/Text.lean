import LoraGateway.Eui
import LoraGateway.Proofs.Checked.Access
import LoraGateway.Proofs.HexReading
import LoraGateway.Proofs.Utf8

/-!
# Texts with checked access

Hexadecimal text and identifiers are read from texts as they are stored, which is as bytes. Of a
hexadecimal text the bytes are taken two by two, so that a character of more than one byte is taken
apart (`hexBytes`). Since no byte of such a character is a digit, what is read is what the
characters spell (`ofPairs?_latin`). The digits of an identifier are counted in bytes as well
(`eui?`), and the word that they spell is put together in 64 bits, with every product and sum
checked (`word?`).

* `agrees_hexBytes`: no pair is cut short, and the bytes that are read are those of the characters;
* `word?_eq_some`: sixteen digits are a word.
-/

namespace LoraGateway.Checked

/-- A reading that refuses a text without giving a reason. -/
def reading {α : Type} : Option α → Except Unit α
  | some a => .ok a
  | none => .error ()

/-! ## Pairs of bytes -/

/-- The value of a byte as a digit of either letter case. -/
def nibble? (b : UInt8) : Option UInt8 :=
  if 0x30 ≤ b ∧ b ≤ 0x39 then some (b - 0x30)
  else if 0x61 ≤ b ∧ b ≤ 0x66 then some (b - 0x61 + 10)
  else if 0x41 ≤ b ∧ b ≤ 0x46 then some (b - 0x41 + 10)
  else none

/-- Bytes two by two; of an odd number of them, the last one is left alone. -/
def pairs : Bytes → List Bytes
  | [] => []
  | [b] => [[b]]
  | high :: low :: rest => [high, low] :: pairs rest

/-- The byte that the digits of a pair spell. -/
def hexPair (pair : Bytes) : Run Unit UInt8 := do
  let first ← access (index? pair 0)
  let high ← ofExcept (reading (nibble? first))
  let second ← access (index? pair 1)
  let low ← ofExcept (reading (nibble? second))
  pure (high <<< 4 ||| low)

/-- The byte string that a text of an even number of bytes spells. -/
def hexBytes (text : Bytes) : Run Unit Bytes :=
  if text.length % 2 = 0 then (pairs text).mapM hexPair else throw ()

/-- The characters with the numbers of bytes. -/
def latin (text : Bytes) : List Char :=
  text.map fun b => Char.ofNat b.toNat

/-- The byte that two digits spell. -/
def pair? (high low : Char) : Option UInt8 := do
  let h ← Hex.ofDigit? high
  let l ← Hex.ofDigit? low
  some (UInt8.ofNat (16 * h + l))

theorem nibble?_eq (b : UInt8) :
    nibble? b = (Hex.ofDigit? (Char.ofNat b.toNat)).map UInt8.ofNat := by
  revert b
  exact Bytes.forall_byte (by decide +kernel)

theorem shift_or_eq {h l : Nat} (hh : h < 16) (hl : l < 16) :
    UInt8.ofNat h <<< 4 ||| UInt8.ofNat l = UInt8.ofNat (16 * h + l) := by
  have hall : ∀ h < 16, ∀ l < 16,
      UInt8.ofNat h <<< 4 ||| UInt8.ofNat l = UInt8.ofNat (16 * h + l) := by
    decide +kernel
  exact hall h hh l hl

/-- A pair is read as the byte that its characters spell. -/
theorem agrees_hexPair (high low : UInt8) : Agrees (hexPair [high, low])
    (reading (pair? (Char.ofNat high.toNat) (Char.ofNat low.toNat))) := by
  rw [hexPair, pair?]
  refine Agrees.behind (a := high) rfl ?_
  rw [nibble?_eq]
  cases hhigh : Hex.ofDigit? (Char.ofNat high.toNat) with
  | none => exact (agrees_ofExcept _).stop
  | some h =>
    refine (agrees_ofExcept (.ok (UInt8.ofNat h))).next ?_
    refine Agrees.behind (a := low) rfl ?_
    rw [nibble?_eq]
    cases hlow : Hex.ofDigit? (Char.ofNat low.toNat) with
    | none => exact (agrees_ofExcept _).stop
    | some l =>
      refine (agrees_ofExcept (.ok (UInt8.ofNat l))).next ?_
      rw [shift_or_eq (Hex.ofDigit?_eq_some_iff.1 hhigh).1 (Hex.ofDigit?_eq_some_iff.1 hlow).1]
      exact agrees_pure _

theorem ofPairs?_cons (high low : Char) (rest : List Char) : Hex.ofPairs? (high :: low :: rest) =
    (pair? high low).bind fun b => (Hex.ofPairs? rest).map (b :: ·) := by
  rw [Hex.ofPairs?, pair?]
  cases Hex.ofDigit? high with
  | none => rfl
  | some h =>
    cases Hex.ofDigit? low with
    | none => rfl
    | some l => cases Hex.ofPairs? rest <;> rfl

/-- No pair of an even number of bytes is cut short. -/
theorem agrees_pairs {text : Bytes} (heven : text.length % 2 = 0) :
    Agrees ((pairs text).mapM hexPair) (reading (Hex.ofPairs? (latin text))) := by
  induction text using pairs.induct with
  | case1 => exact agrees_pure []
  | case2 b => cases heven
  | case3 high low rest ih =>
    have hrest : rest.length % 2 = 0 := by
      rw [List.length_cons, List.length_cons] at heven
      omega
    have hlatin : latin (high :: low :: rest) =
        Char.ofNat high.toNat :: Char.ofNat low.toNat :: latin rest := rfl
    have hpair := agrees_hexPair high low
    rw [pairs, List.mapM_cons, hlatin, ofPairs?_cons]
    cases hvalue : pair? (Char.ofNat high.toNat) (Char.ofNat low.toNat) with
    | none =>
      rw [hvalue] at hpair
      exact hpair.stop
    | some b =>
      rw [hvalue] at hpair
      refine hpair.next ?_
      have hih := ih hrest
      rw [Option.bind_some]
      cases hbs : Hex.ofPairs? (latin rest) with
      | none =>
        rw [hbs] at hih
        exact hih.stop
      | some bs =>
        rw [hbs] at hih
        exact hih.next (agrees_pure (b :: bs))

theorem toNat_ofNat_toNat (b : UInt8) : (Char.ofNat b.toNat).toNat = b.toNat := by
  revert b
  exact Bytes.forall_byte (by decide +kernel)

/-- The byte of a character below 128 is this character, and the bytes of another one are no digits,
    as the character is none. -/
theorem ofPairs?_latin (cs : List Char) :
    Hex.ofPairs? (latin (Utf8.encode cs)) = Hex.ofPairs? cs := by
  by_cases hascii : ∀ c ∈ cs, c.toNat < 128
  · have hchar (c : Char) (hc : c ∈ cs) : Char.ofNat (UInt8.ofNat c.toNat).toNat = c := by
      rw [UInt8.toNat_ofNat_of_lt' (Nat.lt_trans (hascii c hc) (by decide)), Char.ofNat_toNat]
    rw [Utf8.encode_of_ascii hascii, latin, List.map_map]
    exact congrArg _ ((List.map_congr_left hchar).trans (List.map_id _))
  · simp only [not_forall, Nat.not_lt] at hascii
    obtain ⟨c, hc, hhigh⟩ := hascii
    obtain ⟨b, hb⟩ := List.exists_mem_of_length_pos
      (String.length_utf8EncodeChar c ▸ c.utf8Size_pos)
    have hbyte : Char.ofNat b.toNat ∈ latin (Utf8.encode cs) :=
      List.mem_map_of_mem (List.mem_flatMap.2 ⟨c, hc, hb⟩)
    have hbhigh : 128 ≤ (Char.ofNat b.toNat).toNat := by
      rw [toNat_ofNat_toNat]
      exact Utf8.le_of_mem_utf8EncodeChar (Nat.not_le.2 hhigh) b hb
    rw [Hex.ofPairs?_eq_none hc (Hex.isDigit_of_not_ascii hhigh),
      Hex.ofPairs?_eq_none hbyte (Hex.isDigit_of_not_ascii hbhigh)]

/-- A text is read from its bytes as from its characters. -/
theorem agrees_hexBytes (cs : List Char) :
    Agrees (hexBytes (Utf8.encode cs)) (reading (Hex.ofPairs? cs)) := by
  rw [hexBytes, ← ofPairs?_latin]
  by_cases heven : (Utf8.encode cs).length % 2 = 0
  · rw [if_pos heven]
    exact agrees_pairs heven
  · have hnone : Hex.ofPairs? (latin (Utf8.encode cs)) = none := by
      rw [Option.eq_none_iff_forall_ne_some]
      intro bs hbs
      have hlength := (Hex.exists_ofPairs?_iff.1 ⟨bs, hbs⟩).1
      rw [latin, List.length_map] at hlength
      exact heven hlength
    rw [if_neg heven, hnone]
    exact agrees_throw ()

/-! ## Words -/

/-- The word that a digit makes of the word in front of it. -/
def addDigit? (n : Nat) (c : Char) : Option Nat := do
  let value ← Hex.ofDigit? c
  let scaled ← mul? n 16
  add? scaled value

/-- The word that digits spell, with a plus sign in front or without one. -/
def word? (cs : List Char) : Option Nat :=
  let ds := if cs.head? = some '+' then cs.tail else cs
  if ds = [] then none else ds.foldlM addDigit? 0

/-- The identifier that a text spells: its digits are counted in bytes, and make a word. -/
def eui? (s : String) : Option Eui :=
  if (Utf8.encode (Eui.digits s)).length = 16 ∧ (Eui.digits s).all Hex.isDigit = true then
    (word? (Eui.digits s)).map Eui.ofNat
  else none

/-- As many digits as are still to come fit in behind a word. -/
theorem foldlM_addDigit?_eq_some {cs : List Char} {values : List Nat}
    (h : List.Forall₂ (fun c v => Hex.ofDigit? c = some v) cs values) {n k : Nat}
    (hn : n < 16 ^ k) (hk : k + cs.length ≤ 16) :
    cs.foldlM addDigit? n = some (values.foldl (fun n v => 16 * n + v) n) := by
  induction h generalizing n k with
  | nil => rfl
  | @cons c v cs values hc hcs ih =>
    rw [List.length_cons] at hk
    have hv : v < 16 := (Hex.ofDigit?_eq_some_iff.1 hc).1
    have hnext : 16 * n + v < 16 ^ (k + 1) := by
      rw [Nat.pow_succ]
      omega
    have hword : (16 : Nat) ^ (k + 1) ≤ 2 ^ 64 :=
      Nat.pow_le_pow_right (by decide) (show k + 1 ≤ 16 by omega)
    have hstep : addDigit? n c = some (16 * n + v) := by
      rw [addDigit?, hc, Option.bind_eq_bind, Option.bind_some, mul?_eq_some (by omega),
        Option.bind_some, add?_eq_some (by omega), Nat.mul_comm]
    rw [List.foldlM_cons, hstep]
    exact ih hnext (by omega)

/-- Sixteen digits are a word: the conversion behind the check of the digits cannot fail. -/
theorem word?_eq_some {cs : List Char} {values : List Nat}
    (h : List.Forall₂ (fun c v => Hex.ofDigit? c = some v) cs values) (hlength : cs.length = 16) :
    word? cs = some (values.foldl (fun n v => 16 * n + v) 0) := by
  have hne : cs ≠ [] := by
    rintro rfl
    cases hlength
  have hplus : cs.head? ≠ some '+' := by
    intro hhead
    cases h with
    | nil => cases hhead
    | cons hc _ =>
      rw [Option.some.inj hhead] at hc
      cases hc
  rw [word?]
  simp only [if_neg hplus, if_neg hne]
  exact foldlM_addDigit?_eq_some h (show 0 < 16 ^ 0 by decide) (by omega)

end LoraGateway.Checked
