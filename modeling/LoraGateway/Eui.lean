import LoraGateway.Hex

/-!
# Extended unique identifiers

A 64-bit identifier of a device or of a join server. It is written as eight bytes in upper-case
hexadecimal, most significant byte first, with dashes between them (`Eui.text`). It is read from
sixteen digits of either letter case, with dashes and colons allowed anywhere (`Eui.ofText?`).
-/

namespace LoraGateway

/-- A 64-bit extended unique identifier. -/
structure Eui where
  /-- The identifier as a number. -/
  value : UInt64
  deriving DecidableEq, Repr, Inhabited

namespace Eui

/-- The identifier of a number, taken modulo `2 ^ 64`. -/
def ofNat (n : Nat) : Eui :=
  ⟨UInt64.ofNat n⟩

/-- The characters of an identifier: eight bytes with dashes between them. -/
def chars (e : Eui) : List Char :=
  ['-'].intercalate ((Bytes.beBytes 8 e.value.toNat).map Hex.byte)

/-- The written form of an identifier. -/
def text (e : Eui) : String :=
  String.ofList e.chars

/-- True for the characters that may separate the digits of an identifier. -/
def isSeparator (c : Char) : Bool :=
  c == '-' || c == ':'

/-- The digits of a text: what is left of it without the blanks around it and the separators. -/
def digits (s : String) : List Char :=
  (Text.trim s.toList).filter (!isSeparator ·)

/-- The identifier that a text spells with sixteen digits. -/
def ofText? (s : String) : Option Eui :=
  if (digits s).length = 16 then (Hex.number? (digits s)).map ofNat else none

end Eui

end LoraGateway
