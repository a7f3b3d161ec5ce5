import LoraGateway.Decimal.Digits

/-!
# The binary number nearest to a decimal one

`nearest` rounds a quotient of two natural numbers to the nearest double-precision number, a half
to the even neighbour, in exact arithmetic. `float?` reads a decimal text that way: an optional
sign, digits with an optional point among or around them, and an optional exponent; or one of the
words for infinity and for no number, in any letter case.
-/

namespace LoraGateway.Decimal

/-- The whole number nearest to a quotient, a half to the even neighbour. -/
def roundQuotient (num den : Nat) : Nat :=
  let q := num / den
  let twice := 2 * (num % den)
  if twice < den then q
  else if den < twice then q + 1
  else q + q % 2

/-- The exponent of the leading bit of a positive quotient. -/
def leadingBit (num den : Nat) : Int :=
  let k : Int := (Nat.log2 num : Int) - Nat.log2 den
  if den <<< k.toNat ≤ num <<< (-k).toNat then k else k - 1

/-- The bit pattern of positive infinity. -/
def infinityBits : Nat := 0x7FF0000000000000

/-- The double-precision number nearest to a positive quotient. The spacing of these numbers around
    it is `2 ^ e`; the bit patterns of positive numbers count those that are smaller. -/
def nearest (num den : Nat) : Float :=
  let e := max (leadingBit num den - 52) (-1074)
  let significand := roundQuotient (num <<< (-e).toNat) (den <<< e.toNat)
  let bits := (e + 1074).toNat <<< 52 + significand
  Float.ofBits (UInt64.ofNat (min bits infinityBits))

/-- The double-precision number nearest to `n * 10 ^ e`. Far outside the range of these numbers the
    power of ten is not formed. -/
def scaled (n : Nat) (e : Int) : Float :=
  let size := (digits n).length + e
  if n = 0 ∨ size < -330 then 0.0
  else if 320 < size then Float.ofBits (UInt64.ofNat infinityBits)
  else nearest (n * Nat.pow 10 e.toNat) (Nat.pow 10 (-e).toNat)

/-- A power of ten. -/
def powerOfTen (n : Nat) : Float :=
  scaled 1 n

/-- The exponent after the digits of a number: none, or a mark with a signed number. -/
def exponent? : List Char → Option Int
  | [] => some 0
  | c :: rest => if c == 'e' || c == 'E' then signed? rest else none

/-- The number that unsigned digits with an optional point and exponent spell. -/
def unsignedFloat? (cs : List Char) : Option Float := do
  let (whole, rest) := cs.span Char.isDigit
  let (fraction, rest) := match rest with
    | '.' :: r => r.span Char.isDigit
    | _ => ([], rest)
  if whole.isEmpty && fraction.isEmpty then none
  let e ← exponent? rest
  pure (scaled (value (whole ++ fraction)) (e - fraction.length))

/-- The number that a decimal text spells. -/
def float? (cs : List Char) : Option Float := do
  let (negative, rest) := splitSign cs
  let lower := String.ofList (rest.map Char.toLower)
  let x ←
    if lower = "nan" then some (0.0 / 0.0)
    else if lower = "inf" ∨ lower = "infinity" then some (Float.ofBits (UInt64.ofNat infinityBits))
    else unsignedFloat? rest
  pure (if negative then -x else x)

end LoraGateway.Decimal
