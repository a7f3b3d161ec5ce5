import LoraGateway.Beacon.Layout
import LoraGateway.Decimal.Digits
import LoraGateway.Text.Blank
import LoraGateway.Text.Quoted

/-!
# Layouts in text

A layout is given as its three offsets with commas between them and blanks allowed around each. Of
several faults the leftmost bad number is reported, then a wrong number of offsets, then a layout
that is not usable (`Layout.ofText`).
-/

namespace LoraGateway.Beacon

/-- Why a text is no offset. -/
inductive OffsetFault
  | empty
  | invalidDigit
  | tooLarge
  deriving DecidableEq, Repr

/-- The wording of a fault. -/
def OffsetFault.message : OffsetFault → String
  | .empty => "cannot parse integer from empty string"
  | .invalidDigit => "invalid digit found in string"
  | .tooLarge => "number too large to fit in target type"

/-- Why a text gives no usable layout. -/
inductive LayoutTextFault
  /-- A part that is no offset, as it was given. -/
  | badOffset (part : String) (fault : OffsetFault)
  /-- There are not three parts. -/
  | wrongCount
  | unusable (fault : LayoutFault)
  deriving DecidableEq, Repr

/-- The wording of a fault. -/
def LayoutTextFault.message : LayoutTextFault → String
  | .badOffset part fault => Text.quoted part ++ ": " ++ fault.message
  | .wrongCount => "expected three comma-separated offsets"
  | .unusable fault => fault.message

/-- Appends a digit to an offset, which must stay below 256. -/
def addDigit (n : Nat) (c : Char) : Except OffsetFault Nat :=
  if !c.isDigit then throw .invalidDigit
  else
    let m := 10 * n + Decimal.value [c]
    if m < 256 then pure m else throw .tooLarge

/-- The number that digits spell. At the first fault, the rest is not looked at. -/
def offsetOfDigits : List Char → Except OffsetFault Nat
  | [] => throw .invalidDigit
  | ds => ds.foldlM addDigit 0

/-- Reads an offset: digits after an optional plus sign. -/
def offsetOfChars (cs : List Char) : Except OffsetFault Nat :=
  match cs with
  | [] => throw .empty
  | '+' :: ds => offsetOfDigits ds
  | ds => offsetOfDigits ds

/-- Reads a part of a layout. -/
def offsetOfPart (part : List Char) : Except LayoutTextFault UInt8 :=
  match offsetOfChars (Text.trim part) with
  | .ok n => pure (UInt8.ofNat n)
  | .error fault => throw (.badOffset (String.ofList part) fault)

/-- The parts of a text between its commas. -/
def splitCommas : List Char → List (List Char)
  | [] => [[]]
  | c :: rest =>
    if c = ',' then [] :: splitCommas rest
    else
      match splitCommas rest with
      | [] => [[c]]
      | part :: parts => (c :: part) :: parts

/-- Reads a usable layout. -/
def Layout.ofText (s : String) : Except LayoutTextFault Layout := do
  match ← (splitCommas s.toList).mapM offsetOfPart with
  | [time, info, length] =>
    let l : Layout := ⟨time, info, length⟩
    l.check.mapError .unusable
    pure l
  | _ => throw .wrongCount

end LoraGateway.Beacon
