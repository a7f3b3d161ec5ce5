import LoraGateway.Hex
import LoraGateway.Json.Syntax

/-!
# Captures

A capture holds one item per line: a frame in hexadecimal, or a JSON object with a message to the
gateway itself. Blank lines and comments are passed over; any other line is bad, and is reported
with its number and its text without the blanks around it.

* `splitLines_append`: a capture is read line by line: what comes after a line feed has no influence
  on what came before it.
-/

namespace LoraGateway

namespace Capture

/-- A usable line. -/
inductive Item
  | frame (bytes : Bytes)
  /-- A message to the gateway, with the members of each object in canonical form. -/
  | control (msg : Json)

/-- A line of a capture. -/
inductive Line
  /-- A blank line or a comment. -/
  | skipped
  | item (i : Item)
  /-- A line that is none of the others, without the blanks around it. -/
  | bad (text : String)

/-- True for a line that is passed over. -/
def isSkipped : List Char → Bool
  | [] => true
  | c :: _ => c == '#'

/-- What stands between `*` and `;`, if both are there. -/
def unwrap (cs : List Char) : List Char :=
  match cs with
  | '*' :: rest => if rest.getLast? = some ';' then rest.dropLast else cs
  | _ => cs

/-- The digits of a line: what is left of it without wrapping and blanks. -/
def digits (cs : List Char) : List Char :=
  (unwrap cs).filter (!Text.isAsciiBlank ·)

/-- True for an even number of digits, and at least two. -/
def isHex (ds : List Char) : Bool :=
  !ds.isEmpty && ds.length % 2 == 0 && ds.all Hex.isDigit

/-- The digits of a line without blanks around it, in upper case, if it spells a frame. -/
def hexOfTrimmed? (cs : List Char) : Option (List Char) :=
  if isSkipped cs then none
  else if isHex (digits cs) then some ((digits cs).map Char.toUpper)
  else none

/-- The digits of the frame that a line spells, in upper case. -/
def cleanHex? (line : String) : Option String :=
  (hexOfTrimmed? (Text.trim line.toList)).map String.ofList

/-- The item of a line that is not passed over. -/
def itemOfTrimmed? (cs : List Char) : Option Item :=
  if cs.head? = some '{' then
    (Json.ofText? (String.ofList cs)).map fun msg => .control msg.canonical
  else
    ((hexOfTrimmed? cs).bind Hex.ofPairs?).map .frame

/-- Reads a line. -/
def Line.ofText (line : String) : Line :=
  let cs := Text.trim line.toList
  if isSkipped cs then .skipped
  else
    match itemOfTrimmed? cs with
    | some i => .item i
    | none => .bad (String.ofList cs)

/-- The line feed, which ends a line. -/
def lineFeed : UInt8 := 0x0A

/-- Puts a byte in front of the first line; a line feed is a line of its own. -/
def consByte (b : UInt8) (lines : List Bytes) : List Bytes :=
  if b = lineFeed then [] :: lines
  else
    match lines with
    | [] => [[b]]
    | l :: rest => (b :: l) :: rest

/-- The lines of a capture. A carriage return at the end of a line counts as a blank. -/
def splitLines (bs : Bytes) : List Bytes :=
  bs.foldr consByte []

/-- Reads a capture: its lines, if all of it is text. -/
def ofBytes? (bs : Bytes) : Option (List Line) :=
  (splitLines bs).mapM fun l => (String.fromUTF8? ⟨l.toArray⟩).map Line.ofText

/-- The items of a capture. -/
def items (lines : List Line) : List Item :=
  lines.filterMap fun
    | .item i => some i
    | _ => none

/-- The bad lines of a capture with their numbers, which start at one. -/
def badLines (lines : List Line) : List (Nat × String) :=
  (lines.zipIdx 1).filterMap fun
    | (.bad text, n) => some (n, text)
    | _ => none

theorem splitLines_append (a b : Bytes) :
    splitLines (a ++ lineFeed :: b) = splitLines (a ++ [lineFeed]) ++ splitLines b := by
  have h : ∀ x : Bytes, ∃ l ls, ∀ tail : List Bytes,
      x.foldr consByte ([] :: tail) = l :: ls ++ tail := by
    intro x
    induction x with
    | nil => exact ⟨[], [], fun _ => rfl⟩
    | cons c x ih =>
      obtain ⟨l, ls, h⟩ := ih
      by_cases hc : c = lineFeed
      · exact ⟨[], l :: ls, fun tail => by simp [h, consByte, hc]⟩
      · exact ⟨c :: l, ls, fun tail => by simp [h, consByte, hc]⟩
  obtain ⟨l, ls, h⟩ := h a
  simp [splitLines, consByte, h]

end Capture

end LoraGateway
