import LoraGateway.Decimal.Nearest
import LoraGateway.Json.Basic

/-!
# Numerals

A number as it is written in a JSON text, and the number it stands for. A numeral without fraction
and exponent that fits 64 bits is a whole number, except for minus zero. Every other one is a
double-precision number, made from as many leading digits as fit 64 bits and one scaling by a power
of ten; beyond the range of these numbers a numeral stands for nothing.
-/

namespace LoraGateway.Json

/-- A written number. -/
structure Numeral where
  negative : Bool
  /-- The digits before the point. -/
  whole : List Char
  /-- The digits after the point; none if there is no point. -/
  fraction : List Char
  /-- The exponent, if there is one. -/
  exponent : Option Int
  deriving DecidableEq, Repr

namespace Numeral

/-- A single zero, or digits that do not start with one. -/
def isWhole : List Char → Bool
  | ['0'] => true
  | c :: rest => c != '0' && Decimal.isNumber (c :: rest)
  | [] => false

/-- The digits after a point, with what follows them. -/
def splitFraction? : List Char → Option (List Char × List Char)
  | '.' :: rest =>
    let (ds, rest) := rest.span Char.isDigit
    if ds.isEmpty then none else some (ds, rest)
  | rest => some ([], rest)

/-- The exponent that ends a numeral. -/
def exponent? : List Char → Option (Option Int)
  | [] => some none
  | c :: rest => if c == 'e' || c == 'E' then (Decimal.signed? rest).map some else none

/-- Reads a written number. -/
def ofChars? (cs : List Char) : Option Numeral := do
  let (negative, unsigned) := match cs with
    | '-' :: rest => (true, rest)
    | rest => (false, rest)
  let (whole, rest) := unsigned.span Char.isDigit
  if !isWhole whole then none
  let (fraction, rest) ← splitFraction? rest
  let exponent ← exponent? rest
  pure { negative, whole, fraction, exponent }

/-- True for a number without fraction and exponent. -/
def isPlain (n : Numeral) : Bool :=
  n.fraction.isEmpty && n.exponent.isNone

/-- Appends digits to a number while it stays below `2 ^ 64`; with the result goes the number of
    digits that were taken. -/
def take64 (n : Nat) : List Char → Nat × Nat
  | [] => (n, 0)
  | d :: rest =>
    let m := 10 * n + Decimal.value [d]
    if m < UInt64.size then
      let (r, k) := take64 m rest
      (r, k + 1)
    else (n, 0)

/-- The greatest power of ten that a double-precision number holds. -/
def maxPower : Nat := 308

/-- A number divided by a power of ten, in steps of the greatest one. -/
def divide (x : Float) (n : Nat) : Float :=
  if n ≤ maxPower then x / Decimal.powerOfTen n
  else if x == 0 then x
  else divide (x / Decimal.powerOfTen maxPower) (n - maxPower)
termination_by n
decreasing_by
  simp only [maxPower] at *
  omega

/-- A number multiplied by a power of ten; `none` if the result is infinite. -/
def multiply? (x : Float) (n : Nat) : Option Float :=
  if n ≤ maxPower then
    let y := x * Decimal.powerOfTen n
    if y.isInf then none else some y
  else if x == 0 then some x
  else none

/-- The magnitude of a number that is not whole. -/
def magnitude? (n : Numeral) : Option Float :=
  let (m, taken) := take64 0 n.whole
  let (m, decimals) := take64 m n.fraction
  let e : Int := (n.whole.length : Int) - taken - decimals + n.exponent.getD 0
  let x := (UInt64.ofNat m).toFloat
  if e < 0 then some (divide x e.natAbs) else multiply? x e.natAbs

/-- The whole number that a numeral stands for. -/
def int? (n : Numeral) : Option Int :=
  let m := Decimal.value n.whole
  if !n.isPlain then none
  else if n.negative then
    if 0 < m ∧ Int64.minValue.toInt ≤ -(m : Int) then some (-(m : Int)) else none
  else if m < UInt64.size then some m
  else none

/-- The number that a numeral stands for. -/
def value? (n : Numeral) : Option Number :=
  match n.int? with
  | some i => some (.int i)
  | none => n.magnitude?.map fun x => .float (if n.negative then -x else x)

end Numeral

end LoraGateway.Json
