import LoraGateway.Bytes
import LoraGateway.Text.Blank

/-!
# Hexadecimal text

Bytes are written as two upper-case digits each (`encode`) and read in either letter case
(`decode?`), with blanks allowed around the whole text but not inside it.

* `ofDigit?_digit`: a digit that was written reads back as its value;
* `ofPairs?_encode`: what was written reads back as the bytes it came from.
-/

namespace LoraGateway.Hex

/-- The upper-case digit of a value below 16. -/
def digit (n : Nat) : Char :=
  if n < 10 then Char.ofNat (0x30 + n) else Char.ofNat (0x37 + n)

/-- The value of a hexadecimal digit of either letter case; `none` for every other character. -/
def ofDigit? (c : Char) : Option Nat :=
  if '0' ≤ c ∧ c ≤ '9' then some (c.toNat - 0x30)
  else if 'a' ≤ c ∧ c ≤ 'f' then some (c.toNat - 0x57)
  else if 'A' ≤ c ∧ c ≤ 'F' then some (c.toNat - 0x37)
  else none

/-- True for the 22 hexadecimal digits. -/
def isDigit (c : Char) : Bool :=
  (ofDigit? c).isSome

/-- The two digits of a byte. -/
def byte (b : UInt8) : List Char :=
  [digit (b.toNat / 16), digit (b.toNat % 16)]

/-- The digits of a byte string, two per byte. -/
def encode (bs : Bytes) : List Char :=
  bs.flatMap byte

/-- The digits of a byte string, as a text. -/
def text (bs : Bytes) : String :=
  String.ofList (encode bs)

/-- The byte that each two digits spell; `none` if a digit is left over or is none. -/
def ofPairs? : List Char → Option Bytes
  | [] => some []
  | [_] => none
  | high :: low :: rest => do
    let h ← ofDigit? high
    let l ← ofDigit? low
    let bs ← ofPairs? rest
    pure (UInt8.ofNat (16 * h + l) :: bs)

/-- The byte string that a text spells, blanks around it left aside. -/
def decode? (s : String) : Option Bytes :=
  ofPairs? (Text.trim s.toList)

/-- The number that a list of digits spells, most significant digit first. -/
def number? (cs : List Char) : Option Nat := do
  let ds ← cs.mapM ofDigit?
  pure (ds.foldl (fun n d => 16 * n + d) 0)

theorem ofDigit?_digit {n : Nat} (h : n < 16) : ofDigit? (digit n) = some n := by
  revert n
  decide

theorem ofPairs?_encode (bs : Bytes) : ofPairs? (encode bs) = some bs := by
  induction bs with
  | nil => rfl
  | cons b r ih =>
    have hb := b.toNat_lt
    have h : 16 * (b.toNat / 16) + b.toNat % 16 = b.toNat := by omega
    rw [encode] at ih
    simp only [encode, List.flatMap_cons, byte, List.cons_append, List.nil_append, ofPairs?,
      ofDigit?_digit (show b.toNat / 16 < 16 by omega),
      ofDigit?_digit (show b.toNat % 16 < 16 by omega), ih, h, Option.bind_eq_bind,
      Option.bind_some, UInt8.ofNat_toNat]
    rfl

end LoraGateway.Hex
