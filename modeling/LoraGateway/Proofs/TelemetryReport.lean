import Mathlib.Data.List.Forall2
import Mathlib.Data.List.Induction
import LoraGateway.Proofs.ItemStream

/-!
# What a telemetry frame reports

A frame reports its header, its records in the order of the items that hold them, and for each tag
of a status value the value of the last item of that tag (`Telemetry.Reports`).

* `DeviceStatus.number?_report`, `DeviceStatus.number?_foldl_report`: what one item changes of a
  status, and what the items leave of it;
* `Telemetry.decode_eq`: a frame that holds a header decodes to what its items report;
* `Telemetry.decode_iff_stream`: which frames are accepted, and what is found in them.
-/

namespace LoraGateway

open Telemetry (Item Tag)

namespace Telemetry.Item

/-- The value of a status item. -/
def number? : Item → Option Int
  | .battery v => some v.toNat
  | .energy v => some v.toNat
  | .chargeTime v => some v.toNat
  | .flags v => some v.toNat
  | .resets v => some v.toNat
  | .temperature v => some v.toInt
  | .gnss .. => none
  | .wifi .. => none

/-- True of the items that hold a record. -/
def isRecord (i : Item) : Bool :=
  i.tag == .gnss || i.tag == .wifi

/-- The record is what the item holds: of the body of a Wi-Fi item, the largest part that is whole
    stations. -/
def Yields (i : Item) : Record → Prop
  | .gnss timestamp status fix => i = .gnss timestamp status fix
  | .wifi timestamp beacons => ∃ rest, i = .wifi timestamp (beacons ++ rest) ∧
    beaconWidth ∣ beacons.length ∧ rest.length < beaconWidth

end Telemetry.Item

namespace DeviceStatus

/-- The value of a status under a tag. -/
def number? (s : DeviceStatus) : Tag → Option Int
  | .battery => s.battery.map (·.toNat)
  | .energy => s.energy.map (·.toNat)
  | .chargeTime => s.chargeTime.map (·.toNat)
  | .flags => s.flags.map (·.toNat)
  | .resets => s.resets.map (·.toNat)
  | .temperature => s.temperature.map (·.toInt)
  | .gnss => none
  | .wifi => none

/-- An item changes the value of its own tag and no other one. -/
theorem number?_report (s : DeviceStatus) (i : Item) (tag : Tag) :
    (i.report s).number? tag = if i.tag = tag then i.number? else s.number? tag := by
  cases i <;> cases tag <;> rfl

/-- The value of a tag after some items is that of the last item of this tag. -/
theorem number?_foldl_report (items : List Item) (tag : Tag) :
    (items.foldl Item.report {}).number? tag =
      (items.filter (·.tag = tag)).getLast?.bind Item.number? := by
  -- By induction from the last item, which is reported over all the others.
  induction items using List.reverseRecOn with
  | nil => cases tag <;> rfl
  | append_singleton items i ih =>
    rw [List.foldl_append, List.foldl_cons, List.foldl_nil, number?_report, List.filter_append]
    by_cases h : i.tag = tag
    · simp [h]
    · simp [h, ih]

end DeviceStatus

namespace Telemetry

theorem Item.yields_wifi (timestamp : UInt32) (body : Bytes) : (Item.wifi timestamp body).Yields
    (.wifi timestamp (body.take (body.length / beaconWidth * beaconWidth))) := by
  refine ⟨body.drop (body.length / beaconWidth * beaconWidth), ?_, ?_, ?_⟩
  · rw [List.take_append_drop]
  · rw [List.length_take_of_le (Nat.div_mul_le_self ..)]
    exact Nat.dvd_mul_left ..
  · rw [List.length_drop, beaconWidth]
    omega

/-- The records are those of the items that hold one, in their order. -/
theorem forall₂_yields (items : List Item) :
    List.Forall₂ Item.Yields (items.filter Item.isRecord) (items.filterMap Item.record?) := by
  induction items with
  | nil => exact .nil
  | cons i rest ih =>
    cases i with
    | gnss timestamp status fix => exact .cons rfl ih
    | wifi timestamp body => exact .cons (Item.yields_wifi timestamp body) ih
    | _ => exact ih

/-- What a telemetry frame with the given items says. -/
structure Reports (t : Telemetry) (frame : Bytes) (items : List Item) : Prop where
  devEui : t.devEui.value.toNat = Bytes.beValue ((frame.drop 1).take 8)
  fcnt : t.fcnt.toNat = Bytes.beValue ((frame.drop 10).take 4)
  records : List.Forall₂ Item.Yields (items.filter Item.isRecord) t.records
  status : ∀ tag, t.status.number? tag = (items.filter (·.tag = tag)).getLast?.bind Item.number?
  raw : t.raw = frame

/-- The telemetry of a frame that holds a header and the given items. -/
def ofFrame (frame : Bytes) (items : List Item) : Telemetry :=
  ofItems frame ⟨.ofNat (Bytes.beValue ((frame.drop 1).take 8))⟩
    (.ofNat (Bytes.beValue ((frame.drop 10).take 4))) items

variable {frame : Bytes} {items : List Item}

theorem decode_eq (hlen : itemsOffset ≤ frame.length) :
    decode frame = (scan frame itemsOffset).map (ofFrame frame) := by
  rw [itemsOffset] at hlen
  rw [decode, Wire.be64, Wire.be32, Wire.bigEndian, Wire.bigEndian, Wire.slice_eq_ok (by omega),
    Wire.slice_eq_ok (by omega)]
  cases scan frame itemsOffset <;> rfl

theorem decode_of_stream {tail : Bytes} (hlen : itemsOffset ≤ frame.length)
    (h : Stream (frame.drop itemsOffset) items tail) :
    decode frame = .ok (ofFrame frame items) := by
  rw [decode_eq hlen, (scan_eq_ok_iff hlen).2 ⟨tail, h⟩]
  rfl

theorem reports_ofFrame : (ofFrame frame items).Reports frame items where
  devEui := UInt64.toNat_ofNat_of_lt' (Bytes.beValue_take_lt _ 8)
  fcnt := UInt32.toNat_ofNat_of_lt' (Bytes.beValue_take_lt _ 4)
  records := forall₂_yields items
  status := DeviceStatus.number?_foldl_report items
  raw := rfl

theorem exists_stream_of_decode {t : Telemetry} (hlen : itemsOffset ≤ frame.length)
    (h : decode frame = .ok t) :
    ∃ items tail, Stream (frame.drop itemsOffset) items tail ∧ t.Reports frame items := by
  rw [decode_eq hlen, Result.map_eq_ok_iff] at h
  obtain ⟨items, hscan, rfl⟩ := h
  obtain ⟨tail, hstream⟩ := (scan_eq_ok_iff hlen).1 hscan
  exact ⟨items, tail, hstream, reports_ofFrame⟩

/-- Frames with the same header and the same items report the same, whatever comes behind. -/
theorem ofFrame_congr {frame' : Bytes} (h : frame'.take itemsOffset = frame.take itemsOffset) :
    ofFrame frame' items = { ofFrame frame items with raw := frame' } := by
  have field (offset width : Nat) (hin : offset + width ≤ itemsOffset) :
      (frame'.drop offset).take width = (frame.drop offset).take width := by
    have cut (f : Bytes) : ((f.take itemsOffset).drop offset).take width =
        (f.drop offset).take width := by
      rw [List.drop_take, List.take_take, Nat.min_eq_left (by omega)]
    rw [← cut, h, cut]
  rw [ofFrame, ofFrame, field 1 8 (by decide), field 10 4 (by decide)]
  rfl

/-- A frame that holds a header is accepted if and only if what comes after the header is some items
    and a tail that starts with no tag. Items and tail are then determined by the frame, the frame
    reports what its items say, and another tail changes nothing of it but the raw frame. -/
theorem decode_iff_stream (frame : Bytes) (hlen : itemsOffset ≤ frame.length) :
    ((∃ t, decode frame = .ok t) ↔ ∃ items tail, Stream (frame.drop itemsOffset) items tail) ∧
    ∀ items tail, Stream (frame.drop itemsOffset) items tail →
      (∀ items' tail', Stream (frame.drop itemsOffset) items' tail' →
        items' = items ∧ tail' = tail) ∧
      ∃ t, decode frame = .ok t ∧ t.Reports frame items ∧
        ∀ frame' tail', frame'.take itemsOffset = frame.take itemsOffset →
          Stream (frame'.drop itemsOffset) items tail' →
            decode frame' = .ok { t with raw := frame' } := by
  refine ⟨⟨?_, ?_⟩, fun items tail h => ⟨fun _ _ h' => h'.unique h, ?_⟩⟩
  · rintro ⟨t, ht⟩
    rw [decode_eq hlen, Result.map_eq_ok_iff] at ht
    obtain ⟨items, hitems, -⟩ := ht
    exact ⟨items, (scan_eq_ok_iff hlen).1 hitems⟩
  · rintro ⟨items, tail, h⟩
    exact ⟨_, decode_of_stream hlen h⟩
  · refine ⟨_, decode_of_stream hlen h, reports_ofFrame, fun frame' tail' hheader h' => ?_⟩
    -- The other frame holds a header too, because it has the same one.
    have hlen' : itemsOffset ≤ frame'.length := by
      have := congrArg List.length hheader
      rw [List.length_take, List.length_take] at this
      omega
    rw [decode_of_stream hlen' h', ofFrame_congr hheader]

/-- A satellite fix of one byte, a Wi-Fi item with a station and three bytes of another one, and the
    flags twice, before a byte that is no tag. -/
theorem decode_iff_stream_mixed :
    let frame : Bytes := [0x01, 0, 0, 0, 0, 0, 0, 0, 7, 0x41, 0, 0, 0, 9] ++
      [0x61, 9, 1, 0, 0, 0, 0, 0, 0, 2, 0xAA] ++
      [0x62, 15, 5, 0, 0, 0, 1, 2, 3, 4, 5, 6, 7, 8, 9, 9, 9] ++ [0x30, 1] ++ [0x30, 2] ++
      [0x99, 0x61]
    itemsOffset ≤ frame.length ∧ ∃ t, decode frame = .ok t ∧ t.Reports frame
      [.gnss 1 2 [0xAA], .wifi 5 [1, 2, 3, 4, 5, 6, 7, 8, 9, 9, 9], .flags 1, .flags 2] := by
  intro frame
  have hlen : itemsOffset ≤ frame.length := by decide
  have hstream : Stream (frame.drop itemsOffset)
      [.gnss 1 2 [0xAA], .wifi 5 [1, 2, 3, 4, 5, 6, 7, 8, 9, 9, 9], .flags 1, .flags 2]
      [0x99, 0x61] :=
    ⟨by decide, by simp [Item.Fits], fun tag => by cases tag <;> decide⟩
  obtain ⟨-, t, ht, hreports, -⟩ := (decode_iff_stream frame hlen).2 _ _ hstream
  exact ⟨hlen, t, ht, hreports⟩

end Telemetry

end LoraGateway
