import LoraGateway.Emission
import LoraGateway.Proofs.Hexadecimal
import LoraGateway.Proofs.MessageLine
import LoraGateway.Proofs.TelemetryReport
import LoraGateway.Proofs.Uplink

/-!
# Lines for a reader

What a frame adds to the diagnostics is a number of lines that can be told from the frame: one for a
frame that is discarded or makes a single report, and for telemetry one for the header, one for each
record and one for the status. Since no line contains a line feed, the lines can be told apart in the
text again.

* `Text.IsLine`: texts without control characters, which everything is that a line is made of;
* `isLine_diagnosticLines`: so is every line of a frame, whatever became of it;
* `forward_adds_lines`: which lines are added, and how many.
-/

namespace LoraGateway

open Telemetry (Item Tag Stream itemsOffset)

/-! ## What lines are made of -/

namespace Text

/-- True of a text without control characters. -/
def IsLine (s : String) : Prop :=
  Json.IsLine s.toList

instance (s : String) : Decidable (IsLine s) :=
  inferInstanceAs (Decidable (Json.IsLine s.toList))

theorem IsLine.lineFeed_not_mem {s : String} (h : IsLine s) : '\n' ∉ s.toList :=
  fun hmem => absurd (h _ hmem) (by decide)

theorem isLine_append {s t : String} : IsLine (s ++ t) ↔ IsLine s ∧ IsLine t := by
  rw [IsLine, String.toList_append]
  exact Json.isLine_append

/-- A text stands in a line as it is. -/
theorem isLine_string {s : String} : IsLine (toString s) ↔ IsLine s :=
  Iff.rfl

theorem isLine_nat (n : Nat) : IsLine (toString n) := by
  rw [Nat.toString_eq_repr, Nat.repr_eq_ofList_toDigits, IsLine, String.toList_ofList]
  exact Json.isLine_of_digits fun _ => Decimal.isDigit_of_mem_digits

theorem isLine_int (n : Int) : IsLine (toString n) := by
  rw [Int.toString_eq_repr, Int.repr_eq_if]
  split
  · exact isLine_nat _
  · exact isLine_append.2 ⟨by decide, isLine_nat _⟩

end Text

open Text (IsLine isLine_append isLine_string isLine_nat isLine_int)

theorem Hex.le_toNat_digit {n : Nat} (h : n < 16) : 0x20 ≤ (digit n).toNat := by
  revert n
  decide

theorem Hex.isLine_text (bs : Bytes) : IsLine (text bs) := by
  rw [IsLine, text, String.toList_ofList]
  intro c hc
  obtain ⟨n, hn, rfl⟩ := exists_digit_of_mem_encode hc
  exact le_toNat_digit hn

theorem Eui.isLine_text (e : Eui) : IsLine e.text := by
  rw [IsLine, text, String.toList_ofList]
  intro c hc
  rcases separator_or_digit_of_mem_chars hc with (rfl | rfl) | ⟨n, hn, rfl⟩
  · decide
  · decide
  · exact Hex.le_toNat_digit hn

theorem DevAddr.isLine_text (a : DevAddr) : IsLine a.text :=
  Hex.isLine_text _

theorem Kind.isLine_name (k : Kind) : IsLine k.name := by
  cases k <;> decide

theorem isLine_optionalText (v : Option Int) : IsLine (optionalText v) := by
  cases v with
  | none => decide
  | some n =>
    simp only [optionalText, isLine_append, isLine_int]
    decide

/-! ## The lines of a frame

A line is put together from these texts, and what is left of it then is its wording, which is
decided. The definitions are opened by `delta`, because equations about them would be checked
character by character. -/

theorem Malformed.isLine_message (m : Malformed) : IsLine m.message := by
  delta message
  cases m with
  | empty => decide
  | joinLength | noRoomForMic | outOfBounds =>
    simp only [isLine_append, isLine_string, isLine_nat]
    decide
  | truncated | recordSize =>
    simp only [isLine_append, isLine_string, isLine_nat, Hex.isLine_text]
    decide

theorem Filtered.isLine_message (f : Filtered) : IsLine f.message := by
  delta message
  cases f with
  | joinEui eui =>
    simp only [isLine_append, isLine_string, eui.isLine_text]
    decide
  | netId addr network =>
    simp only [isLine_append, isLine_string, addr.isLine_text, isLine_nat]
    decide

theorem Discard.isLine_line (frame : Bytes) (d : Discard) : IsLine (d.line frame) := by
  delta line
  cases d with
  | malformed cause =>
    simp only [isLine_append, isLine_string, cause.isLine_message, Hex.isLine_text]
    decide
  | filtered cause => exact cause.isLine_message

theorem Record.isLine_line (r : Record) : IsLine r.line := by
  delta line
  cases r with
  | gnss timestamp status fix =>
    simp only [isLine_append, isLine_string, isLine_nat, Hex.isLine_text]
    decide
  | wifi timestamp beacons =>
    simp only [isLine_append, isLine_string, isLine_nat]
    decide

theorem DeviceStatus.isLine_line (s : DeviceStatus) : IsLine s.line := by
  delta line
  simp only [isLine_append, isLine_string, isLine_optionalText]
  decide

theorem Uplink.isLine_lines (u : Uplink) : ∀ line ∈ u.lines, IsLine line := by
  delta lines
  cases u with
  | join j =>
    simp only [List.forall_mem_singleton, isLine_append, isLine_string, Kind.isLine_name,
      Hex.isLine_text, Eui.isLine_text, isLine_nat, isLine_int]
    decide
  | data d =>
    simp only [List.forall_mem_singleton, isLine_append, isLine_string, Kind.isLine_name,
      Hex.isLine_text, DevAddr.isLine_text, isLine_nat, isLine_int]
    decide
  | raw payload =>
    simp only [List.forall_mem_singleton, isLine_append, isLine_string, Kind.isLine_name,
      Hex.isLine_text, isLine_nat]
    decide
  | telemetry t =>
    have hstatus : ∀ line ∈ (if t.status.isEmpty then [] else [t.status.line]), IsLine line := by
      split
      · exact List.forall_mem_nil _
      · exact List.forall_mem_singleton.2 t.status.isLine_line
    have hrecords : ∀ line ∈ t.records.map Record.line, IsLine line :=
      List.forall_mem_map.2 fun r _ => r.isLine_line
    refine List.forall_mem_cons.2 ⟨?_, List.forall_mem_append.2 ⟨hrecords, hstatus⟩⟩
    simp only [isLine_append, isLine_string, Kind.isLine_name, Eui.isLine_text, isLine_nat]
    decide

/-- No line of a frame contains a control character, whatever became of the frame. -/
theorem isLine_diagnosticLines (frame : Bytes) (result : Except Discard Uplink) :
    ∀ line ∈ diagnosticLines frame result, IsLine line := by
  cases result with
  | ok u => exact u.isLine_lines
  | error d => exact List.forall_mem_singleton.2 (d.isLine_line frame)

/-! ## Lines in the text -/

/-- A frame adds its lines behind the text that is there, each of them ended by a line feed. -/
theorem diagnostics_forward (frame : Bytes) (filters : Filters) (o : MessageOptions) (s : Sinks) :
    (forward frame filters o s).2.diagnostics = s.diagnostics ++
      String.join ((diagnosticLines frame (Uplink.decode frame filters)).map (· ++ "\n")) := by
  rw [forward]
  cases Uplink.decode frame filters <;> rfl

/-- Lines without line feeds are counted by the line feeds that end them. -/
theorem count_join_lines {lines : List String} (h : ∀ line ∈ lines, '\n' ∉ line.toList) :
    (String.join (lines.map (· ++ "\n"))).toList.count '\n' = lines.length := by
  rw [String.toList_join, List.flatMap_map]
  induction lines with
  | nil => rfl
  | cons line lines ih =>
    rw [List.forall_mem_cons] at h
    rw [List.flatMap_cons, List.count_append, ih h.2, String.toList_append, List.count_append,
      List.count_eq_zero_of_not_mem h.1, List.length_cons]
    exact Nat.add_comm ..

/-- A status is empty if and only if it has no value under any tag. -/
theorem DeviceStatus.isEmpty_iff {s : DeviceStatus} :
    s.isEmpty = true ↔ ∀ tag, s.number? tag = none := by
  rw [isEmpty, beq_iff_eq]
  constructor
  · rintro rfl tag
    cases tag <;> rfl
  · intro h
    obtain ⟨battery, energy, chargeTime, flags, resets, temperature⟩ := s
    obtain rfl : battery = none := Option.map_eq_none_iff.1 (h .battery)
    obtain rfl : energy = none := Option.map_eq_none_iff.1 (h .energy)
    obtain rfl : chargeTime = none := Option.map_eq_none_iff.1 (h .chargeTime)
    obtain rfl : flags = none := Option.map_eq_none_iff.1 (h .flags)
    obtain rfl : resets = none := Option.map_eq_none_iff.1 (h .resets)
    obtain rfl : temperature = none := Option.map_eq_none_iff.1 (h .temperature)
    rfl

/-- A frame appends lines to the diagnostics and leaves what is there unchanged. Each line is ended
    by the only line feed in it, so that there are as many lines as line feeds. It is one line,
    whether the frame is discarded or decodes to something, but for telemetry, where a line for each
    record follows the header, in the order in which the records stand in the frame, and then a line
    for the status if it has any value. -/
theorem forward_adds_lines (frame : Bytes) (filters : Filters) (o : MessageOptions) (s : Sinks) :
    ∃ lines : List String,
      (forward frame filters o s).2.diagnostics =
        s.diagnostics ++ String.join (lines.map (· ++ "\n")) ∧
      (∀ line ∈ lines, '\n' ∉ line.toList) ∧
      (String.join (lines.map (· ++ "\n"))).toList.count '\n' = lines.length ∧
      match Uplink.decode frame filters with
      | .ok (.telemetry t) =>
        ∃ header status, lines = header :: (t.records.map Record.line ++ status) ∧
          ((∃ tag n, t.status.number? tag = some n) → status.length = 1) ∧
          ((∀ tag, t.status.number? tag = none) → status = []) ∧
          ∃ items tail, Stream (frame.drop itemsOffset) items tail ∧ t.Reports frame items
      | _ => lines.length = 1 := by
  have hlines : ∀ line ∈ diagnosticLines frame (Uplink.decode frame filters), '\n' ∉ line.toList :=
    fun line hline => (isLine_diagnosticLines _ _ line hline).lineFeed_not_mem
  refine ⟨_, diagnostics_forward frame filters o s, hlines, count_join_lines hlines, ?_⟩
  cases hdecode : Uplink.decode frame filters with
  | error d => rfl
  | ok u =>
    cases u with
    | join j => rfl
    | data d => rfl
    | raw payload => rfl
    | telemetry t =>
      obtain ⟨hmarked, htelemetry⟩ := Uplink.decode_eq_ok_iff.1 hdecode
      refine ⟨_, _, rfl, ?_, fun hnone => if_pos (DeviceStatus.isEmpty_iff.2 hnone),
        Telemetry.exists_stream_of_decode (Telemetry.isMarked_iff.1 hmarked).1 htelemetry⟩
      rintro ⟨tag, n, hvalue⟩
      have hpresent : ¬t.status.isEmpty = true := fun hempty => by
        rw [DeviceStatus.isEmpty_iff.1 hempty tag] at hvalue
        cases hvalue
      rw [if_neg hpresent]
      rfl

end LoraGateway
