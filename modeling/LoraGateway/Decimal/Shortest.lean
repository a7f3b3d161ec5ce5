import LoraGateway.Decimal.Digits

/-!
# The shortest decimal for a binary number

A double-precision number is `significand * 2 ^ exponent`; every real number between the midpoints
to its two neighbours is read as that number. `shortest` finds the fewest decimal digits that lie
in this interval, and of those with as few digits the nearest ones. All comparisons are made in
whole numbers, in units of a quarter of the spacing.

How the digits are laid out is a matter of the format that prints them (`Layout`).
-/

namespace LoraGateway.Decimal

/-- The number `significand * 2 ^ exponent`. -/
structure Binary where
  significand : Nat
  exponent : Int
  deriving Repr

namespace Binary

/-- The leading bit of the significand, which a bit pattern leaves out. -/
def leading : Nat := 1 <<< 52

/-- The magnitude of a finite double-precision number. -/
def ofFloat (x : Float) : Binary :=
  let bits := x.toBits.toNat
  let fraction := bits % leading
  let e : Nat := bits / leading % 2048
  if e = 0 then ⟨fraction, -1074⟩ else ⟨leading + fraction, (e : Int) - 1075⟩

/-- The number in quarters of its spacing. -/
def middle (b : Binary) : Nat :=
  4 * b.significand

/-- The upper end of the numbers that are read as this one. -/
def upper (b : Binary) : Nat :=
  b.middle + 2

/-- The lower end of the numbers that are read as this one: the spacing below a power of two is
    half as wide. -/
def lower (b : Binary) : Nat :=
  if b.significand = leading ∧ -1074 < b.exponent then b.middle - 1 else b.middle - 2

/-- What a quarter of the spacing and a step of the grid of multiples of `10 ^ k` are multiplied by
    to make both whole. -/
def scale (b : Binary) (k : Int) : Nat × Nat :=
  let q := b.exponent - 2
  (Nat.pow 10 (-k).toNat <<< q.toNat, Nat.pow 10 k.toNat <<< (-q).toNat)

/-- The multiple of `10 ^ k`, if any, that is read as this number, and the nearest if two are. The
    ends of the interval count if the significand is even. -/
def onGrid? (b : Binary) (k : Int) : Option Nat :=
  let (unit, step) := b.scale k
  let v := b.middle * unit
  let n := v / step
  let inside (x : Nat) : Bool :=
    if b.significand % 2 = 0 then b.lower * unit ≤ x && x ≤ b.upper * unit
    else b.lower * unit < x && x < b.upper * unit
  match inside (n * step), inside ((n + 1) * step) with
  | true, true =>
    let below := v - n * step
    let above := (n + 1) * step - v
    some (if below < above ∨ (below = above ∧ n % 2 = 0) then n else n + 1)
  | true, false => some n
  | false, true => some (n + 1)
  | false, false => none

/-- The exponent of the leading decimal digit of a positive number. -/
def leadingDigit (b : Binary) : Int :=
  let num := b.significand <<< b.exponent.toNat
  let den := 1 <<< (-b.exponent).toNat
  if den ≤ num then ((digits (num / den)).length : Int) - 1
  else -((digits ((den + num - 1) / num - 1)).length : Int)

end Binary

/-- The digits of a positive number, without zeros at the end, and the exponent of the first one.
    Seventeen digits are always enough. -/
def shortest (b : Binary) : List Char × Int :=
  let top := b.leadingDigit
  let hit := (List.range 17).findSome? fun (i : Nat) =>
    let k := top - i
    (b.onGrid? k).map (·, k)
  match hit with
  | none => ([], 0)
  | some (n, k) =>
    let ds := digits n
    ((ds.reverse.dropWhile (· == '0')).reverse, k + ds.length - 1)

/-- How a number is laid out. -/
structure Layout where
  /-- The least exponent of the leading digit that is written positionally. -/
  lowest : Int
  /-- The greatest exponent of the leading digit that is written positionally. -/
  highest : Int
  /-- The mark before an exponent. -/
  mark : Char
  /-- Whether a positive exponent has its sign written. -/
  plus : Bool

namespace Layout

/-- Digits with the point at their place; a whole number is followed by a point and a zero. -/
def positional (ds : List Char) (e : Int) : List Char :=
  if e < 0 then
    '0' :: '.' :: (List.replicate (-e - 1).toNat '0' ++ ds)
  else
    let n := e.toNat + 1
    if ds.length ≤ n then ds ++ List.replicate (n - ds.length) '0' ++ ['.', '0']
    else ds.take n ++ '.' :: ds.drop n

/-- Digits with the point after the first one, and an exponent. -/
def withExponent (l : Layout) (ds : List Char) (e : Int) : List Char :=
  let point := if ds.length ≤ 1 then ds else ds.take 1 ++ '.' :: ds.drop 1
  let sign := if e < 0 then ['-'] else if l.plus then ['+'] else []
  point ++ l.mark :: (sign ++ digits e.natAbs)

/-- The text of a finite number. -/
def text (l : Layout) (x : Float) : List Char :=
  let sign := if x.toBits >>> 63 = 1 then ['-'] else []
  let b := Binary.ofFloat x
  if b.significand = 0 then sign ++ ['0', '.', '0']
  else
    let (ds, e) := shortest b
    sign ++ if l.lowest ≤ e ∧ e ≤ l.highest then positional ds e else l.withExponent ds e

end Layout

end LoraGateway.Decimal
