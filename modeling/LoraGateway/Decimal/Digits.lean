/-!
# Decimal digits

Whole numbers in decimal: `digits` writes one, `value` reads a list of digits, and `signed?` reads
a number with an optional sign, the form numbers have in the arguments of a command.

* `value_digits`: what was written reads back.
-/

namespace LoraGateway.Decimal

/-- The decimal digits of a number, without superfluous zeros. -/
def digits (n : Nat) : List Char :=
  Nat.toDigits 10 n

/-- The number that a list of decimal digits spells. -/
def value (ds : List Char) : Nat :=
  Nat.ofDigitChars 10 ds 0

/-- The digits of a number, after a minus sign if it is negative. -/
def signed (n : Int) : List Char :=
  if n < 0 then '-' :: digits n.natAbs else digits n.natAbs

/-- True if a list is one or more decimal digits. -/
def isNumber (ds : List Char) : Bool :=
  !ds.isEmpty && ds.all Char.isDigit

/-- The number that one or more decimal digits spell. -/
def nat? (ds : List Char) : Option Nat :=
  if isNumber ds then some (value ds) else none

/-- A sign, true for minus, with what comes after it. Without a sign a number is positive. -/
def splitSign : List Char → Bool × List Char
  | '-' :: rest => (true, rest)
  | '+' :: rest => (false, rest)
  | cs => (false, cs)

/-- The number that an optional sign and one or more decimal digits spell. -/
def signed? (cs : List Char) : Option Int := do
  let (negative, ds) := splitSign cs
  let n ← nat? ds
  pure (if negative then -(n : Int) else n)

theorem digits_ne_nil (n : Nat) : digits n ≠ [] :=
  Nat.toDigits_ne_nil

theorem isDigit_of_mem_digits {n : Nat} {c : Char} (h : c ∈ digits n) : c.isDigit = true :=
  Nat.isDigit_of_mem_toDigits (by decide) (by decide) h

theorem value_digits (n : Nat) : value (digits n) = n :=
  Nat.ofDigitChars_toDigits (by decide) (by decide)

end LoraGateway.Decimal
