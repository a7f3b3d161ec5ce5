/-!
# Sets of characters

A large set of characters, as tables of the runs of its code points. Each table lists the first and
the last code point of every run, in order; there is one for each of four stretches of code points.
-/

namespace LoraGateway.Text

/-- A set of characters by the runs of its code points. -/
structure CharacterSet where
  /-- The runs below U+0800. -/
  low : List (Nat × Nat)
  /-- The runs from U+0800 to U+1FFF. -/
  mid : List (Nat × Nat)
  /-- The runs from U+2000 to U+FFFF. -/
  high : List (Nat × Nat)
  /-- The runs from U+10000 on. -/
  astral : List (Nat × Nat)

namespace CharacterSet

/-- The table in which a code point would be found. -/
def table (s : CharacterSet) (n : Nat) : List (Nat × Nat) :=
  if n < 0x800 then s.low
  else if n < 0x2000 then s.mid
  else if n < 0x10000 then s.high
  else s.astral

/-- True if a character is in the set. -/
def contains (s : CharacterSet) (c : Char) : Bool :=
  (s.table c.toNat).any fun (first, last) => first ≤ c.toNat && c.toNat ≤ last

end CharacterSet

end LoraGateway.Text
