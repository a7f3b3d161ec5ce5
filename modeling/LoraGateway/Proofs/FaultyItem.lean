import LoraGateway.Proofs.Buffer
import LoraGateway.Proofs.TelemetryReport

/-!
# The first faulty item of a telemetry frame

A telemetry frame is refused for one item. In front of it there are items without a fault, its own
tag stands behind them, and what is missing or wrong behind this tag is one of four defects
(`Defect.At`). The error tells the defect, and mostly the place of the item (`FaultyItem.fault`).

* `readItem_eq_error_iff`: what stands behind a tag is refused if and only if it has a defect;
* `scan_behind`: the scan goes over items without a fault;
* `Item.eq_of_holds`, `prefix_or_prefix_of_holds`: no item starts another one, so that two runs of
  items in the same bytes are the same as far as both go;
* `FaultyItem.IsFirst.unique`, `scan_eq_error_iff`: there is one first faulty item at most, and the
  scan fails if and only if there is one.
-/

namespace LoraGateway.Telemetry

open Bytes (Holds)

/-- What stands behind a tag. -/
inductive Form
  /-- A value of fixed width. -/
  | value (width : Nat)
  /-- A size and as many bytes, of which the first ones are a header. -/
  | record (header : Nat)
  deriving DecidableEq, Repr

/-- The form of the item that a tag announces. -/
def Tag.form : Tag → Form
  | .battery => .value 2
  | .energy => .value 4
  | .chargeTime => .value 4
  | .flags => .value 1
  | .resets => .value 3
  | .temperature => .value 1
  | .gnss => .record gnssHeader
  | .wifi => .record wifiHeader

namespace Item

variable {i : Item}

theorem width_of_value {width : Nat} (h : i.tag.form = .value width) : i.width = 1 + width := by
  cases i <;> cases h <;> rfl

/-- A record declares how many bytes it has behind its size. -/
theorem exists_size_of_record {header : Nat} (hfits : i.Fits) (h : i.tag.form = .record header) :
    ∃ (size : UInt8) (rest : Bytes), i.content = size :: rest ∧ i.width = 2 + size.toNat := by
  cases i with
  | gnss timestamp status fix =>
    have hlength : fix.length ≤ 247 := hfits
    refine ⟨UInt8.ofNat (gnssHeader + fix.length), _, rfl, ?_⟩
    rw [UInt8.toNat_ofNat_of_lt' (by simp only [gnssHeader, UInt8.size]; omega), width,
      Nat.add_assoc]
  | wifi timestamp body =>
    have hlength : body.length ≤ 251 := hfits
    refine ⟨UInt8.ofNat (wifiHeader + body.length), _, rfl, ?_⟩
    rw [UInt8.toNat_ofNat_of_lt' (by simp only [wifiHeader, UInt8.size]; omega), width,
      Nat.add_assoc]
  | _ => cases h

end Item

/-- What can be wrong behind a tag. -/
inductive Defect
  /-- The value, of the given width, ends after the frame. -/
  | valueCut (width : Nat)
  /-- The frame ends where the size of a record should stand. -/
  | sizeMissing
  /-- A record declares more bytes than the frame has. -/
  | bodyCut (size : UInt8)
  /-- A record declares fewer bytes than its header takes. -/
  | tooSmall (size : UInt8)
  deriving DecidableEq, Repr

/-- The defect is behind the tag at `offset`. -/
def Defect.At (frame : Bytes) (offset : Nat) (tag : Tag) : Defect → Prop
  | .valueCut width => tag.form = .value width ∧ frame.length < offset + 1 + width
  | .sizeMissing => (∃ header, tag.form = .record header) ∧ frame.length = offset + 1
  | .bodyCut size => (∃ header, tag.form = .record header) ∧ frame[offset + 1]? = some size ∧
    frame.length < offset + 2 + size.toNat
  | .tooSmall size => ∃ header, tag.form = .record header ∧ frame[offset + 1]? = some size ∧
    offset + 2 + size.toNat ≤ frame.length ∧ size.toNat < header

/-- An item that cannot be read. -/
structure FaultyItem where
  /-- Where its tag stands. -/
  offset : Nat
  tag : Tag
  defect : Defect
  deriving DecidableEq, Repr

namespace FaultyItem

/-- What is said of a faulty item in a frame of the given length. -/
def fault (x : FaultyItem) (length : Nat) : Malformed :=
  match x.defect with
  | .valueCut width => .outOfBounds (x.offset + 1) width length
  | .sizeMissing => .outOfBounds (x.offset + 1) 1 length
  | .bodyCut size => .truncated x.tag.byte x.offset size.toNat length
  | .tooSmall size => .recordSize x.tag.byte size.toNat

/-- The item is the first one from `start` on that cannot be read. -/
structure IsFirst (x : FaultyItem) (frame : Bytes) (start : Nat) : Prop where
  start_le : start ≤ x.offset
  before : ∃ items : List Item, (∀ i ∈ items, i.Fits) ∧
    frame.range start x.offset = items.flatMap Item.encode
  tag : frame[x.offset]? = some x.tag.byte
  defect : x.defect.At frame x.offset x.tag

end FaultyItem

variable {frame body : Bytes} {offset start : Nat} {tag : Tag} {e : Malformed}

/-! ## Defects -/

theorem readItem_eq_error_iff_of_value {width : Nat} (h : tag.form = .value width) :
    readItem frame offset tag = .error e ↔
      frame.length < offset + 1 + width ∧ e = .outOfBounds (offset + 1) width frame.length := by
  cases tag <;> cases h <;>
    simp only [readItem, Wire.be16, Wire.be24, Wire.be32, Wire.signedByte, Wire.bigEndian,
      Wire.byte_eq_error_iff, Wire.slice_eq_error_iff, Result.map_eq_error_iff]

theorem recordBody_eq_error_iff : recordBody frame offset tag = .error e ↔
    (frame.length < offset + 2 ∧ e = .outOfBounds (offset + 1) 1 frame.length) ∨
    ∃ size, frame[offset + 1]? = some size ∧ frame.length < offset + 2 + size.toNat ∧
      e = .truncated tag.byte offset size.toNat frame.length := by
  rw [recordBody, Result.bind_eq_error_iff, Wire.byte_eq_error_iff]
  simp only [Wire.byte_eq_ok_iff, Bytes.holds_singleton_iff, Result.mapError_eq_error_iff,
    Wire.slice_eq_error_iff, and_assoc, exists_and_left, exists_eq_left, eq_comm (b := e)]

/-- The body of a record is found where its size says that it ends inside the frame. -/
theorem exists_recordBody_iff (p : Nat → Prop) :
    (∃ body, recordBody frame offset tag = .ok body ∧ p body.length) ↔
      ∃ size, frame[offset + 1]? = some size ∧ offset + 2 + size.toNat ≤ frame.length ∧
        p size.toNat := by
  simp only [recordBody, Result.bind_eq_ok_iff, Result.mapError_eq_ok_iff, Wire.slice_eq_ok_iff,
    Wire.byte_eq_ok_iff, Bytes.holds_singleton_iff]
  constructor
  · rintro ⟨body, ⟨size, hsize, hlength, hbody⟩, hp⟩
    rw [hlength] at hp
    exact ⟨size, hsize, hlength ▸ hbody.length_le, hp⟩
  · rintro ⟨size, hsize, hend, hp⟩
    obtain ⟨body, hbody⟩ := Wire.exists_slice_eq_ok frame (offset + 2) size.toNat hend
    obtain ⟨hlength, hholds⟩ := Wire.slice_eq_ok_iff.1 hbody
    exact ⟨body, ⟨size, hsize, hlength, hholds⟩, hlength ▸ hp⟩

theorem gnssOfBody_eq_error_iff : gnssOfBody body = .error e ↔
    body.length < gnssHeader ∧ .recordSize Tag.gnss.byte body.length = e := by
  rw [gnssOfBody]
  refine Result.ite_throw_eq_error_iff fun hlength => ?_
  have hroom : 8 ≤ body.length := Nat.le_of_not_lt hlength
  obtain ⟨timestamp, htimestamp⟩ := Wire.exists_le32_eq_ok body 0 (by omega)
  obtain ⟨status, hstatus⟩ := Wire.exists_be32_eq_ok body 4 (by omega)
  rw [htimestamp, hstatus]
  exact ⟨_, rfl⟩

theorem wifiOfBody_eq_error_iff : wifiOfBody body = .error e ↔
    body.length < wifiHeader ∧ .recordSize Tag.wifi.byte body.length = e := by
  rw [wifiOfBody]
  refine Result.ite_throw_eq_error_iff fun hlength => ?_
  have hroom : 4 ≤ body.length := Nat.le_of_not_lt hlength
  obtain ⟨timestamp, htimestamp⟩ := Wire.exists_le32_eq_ok body 0 (by omega)
  rw [htimestamp]
  exact ⟨_, rfl⟩

theorem readItem_eq_error_iff_of_record {header : Nat} (h : tag.form = .record header) :
    readItem frame offset tag = .error e ↔ recordBody frame offset tag = .error e ∨
      ∃ body, recordBody frame offset tag = .ok body ∧ body.length < header ∧
        .recordSize tag.byte body.length = e := by
  cases tag <;> cases h <;>
    simp only [readItem, Result.bind_eq_error_iff, gnssOfBody_eq_error_iff,
      wifiOfBody_eq_error_iff]

/-- What stands behind a tag is refused if and only if it has a defect. -/
theorem readItem_eq_error_iff (hinside : offset < frame.length) :
    readItem frame offset tag = .error e ↔ ∃ d : Defect, d.At frame offset tag ∧
      (FaultyItem.mk offset tag d).fault frame.length = e := by
  cases hform : tag.form with
  | value width =>
    rw [readItem_eq_error_iff_of_value hform]
    constructor
    · rintro ⟨hlength, rfl⟩
      exact ⟨.valueCut width, ⟨hform, hlength⟩, rfl⟩
    · rintro ⟨d, hd, rfl⟩
      cases d <;> simp only [Defect.At, hform, reduceCtorEq, false_and, exists_false] at hd
      obtain ⟨⟨⟩, hlength⟩ := hd
      exact ⟨hlength, rfl⟩
  | record header =>
    rw [readItem_eq_error_iff_of_record hform, recordBody_eq_error_iff,
      exists_recordBody_iff fun size => size < header ∧ .recordSize tag.byte size = e]
    constructor
    · rintro ((⟨hlength, rfl⟩ | ⟨size, hsize, hlength, rfl⟩) | ⟨size, hsize, hend, hlength, rfl⟩)
      · exact ⟨.sizeMissing, ⟨⟨header, hform⟩, by omega⟩, rfl⟩
      · exact ⟨.bodyCut size, ⟨⟨header, hform⟩, hsize, hlength⟩, rfl⟩
      · exact ⟨.tooSmall size, ⟨header, hform, hsize, hend, hlength⟩, rfl⟩
    · rintro ⟨d, hd, rfl⟩
      cases d with
      | valueCut width =>
        rw [Defect.At, hform] at hd
        cases hd.1
      | sizeMissing => exact .inl (.inl ⟨by rw [hd.2]; omega, rfl⟩)
      | bodyCut size => exact .inl (.inr ⟨size, hd.2.1, hd.2.2, rfl⟩)
      | tooSmall size =>
        obtain ⟨header', hform', hsize, hend, hlength⟩ := hd
        obtain rfl : header = header' := Form.record.inj (hform.symm.trans hform')
        exact .inr ⟨size, hsize, hend, hlength, rfl⟩

/-- Behind a tag there is one defect at most. -/
theorem Defect.At.unique {d d' : Defect} (h : d.At frame offset tag) (h' : d'.At frame offset tag) :
    d = d' := by
  -- A tag has one form, and what is said of the size of a record excludes each other.
  cases d <;> cases d' <;> grind [Defect.At]

/-! ## Items in front -/

/-- An item that stands in the frame is read. -/
theorem readItem_of_holds {i : Item} (hfits : i.Fits) (h : Holds frame offset i.encode) :
    frame[offset]? = some i.tag.byte ∧ readItem frame offset i.tag = .ok i := by
  obtain ⟨htag, hcontent⟩ := Item.holds_encode_iff.1 h
  exact ⟨htag, readItem_eq_ok_iff.2 ⟨rfl, hfits, hcontent⟩⟩

/-- No item starts another one. -/
theorem Item.eq_of_holds {i j : Item} (hi : i.Fits) (hj : j.Fits)
    (h : Holds frame offset i.encode) (h' : Holds frame offset j.encode) : i = j := by
  obtain ⟨htag, hread⟩ := readItem_of_holds hi h
  obtain ⟨htag', hread'⟩ := readItem_of_holds hj h'
  have heq : i.tag = j.tag := Tag.eq_of_getElem? htag htag'
  rw [heq, hread'] at hread
  exact (Except.ok.inj hread).symm

/-- Two runs of items in the same bytes are the same as far as both go. -/
theorem prefix_or_prefix_of_holds {items items' : List Item} (hfits : ∀ i ∈ items, i.Fits)
    (hfits' : ∀ i ∈ items', i.Fits) (h : Holds frame offset (items.flatMap Item.encode))
    (h' : Holds frame offset (items'.flatMap Item.encode)) :
    items <+: items' ∨ items' <+: items := by
  induction items generalizing items' offset with
  | nil => exact .inl (List.nil_prefix)
  | cons i rest ih =>
    cases items' with
    | nil => exact .inr (List.nil_prefix)
    | cons j rest' =>
      rw [List.forall_mem_cons] at hfits hfits'
      rw [List.flatMap_cons, Bytes.holds_append_iff] at h h'
      obtain rfl := Item.eq_of_holds hfits.1 hfits'.1 h.1 h'.1
      rw [List.prefix_cons_inj, List.prefix_cons_inj]
      exact ih hfits.2 hfits'.2 h.2 h'.2

/-- The scan goes over items without a fault. -/
theorem scan_behind {items : List Item} (hfits : ∀ i ∈ items, i.Fits)
    (h : Holds frame offset (items.flatMap Item.encode)) : scan frame offset =
      (scan frame (offset + (items.flatMap Item.encode).length)).map (items ++ ·) := by
  induction items generalizing offset with
  | nil =>
    cases hscan : scan frame offset <;> simp [hscan, Except.map]
  | cons i rest ih =>
    rw [List.forall_mem_cons] at hfits
    rw [List.flatMap_cons, Bytes.holds_append_iff, i.length_encode] at h
    obtain ⟨htag, hread⟩ := readItem_of_holds hfits.1 h.1
    rw [scan_of_tag htag, hread, List.flatMap_cons, List.length_append, i.length_encode,
      ← Nat.add_assoc]
    change (scan frame (offset + i.width) >>= fun rest => pure (i :: rest)) = _
    rw [ih hfits.2 h.2]
    cases scan frame (offset + i.width + (rest.flatMap Item.encode).length) <;> rfl

/-! ## The first faulty item -/

namespace FaultyItem

variable {x y : FaultyItem}

/-- What is said of a faulty item has one of three forms, and the third one only if a record is too
    small. -/
theorem fault_cases (x : FaultyItem) (length : Nat) :
    (∃ offset width, x.fault length = .outOfBounds offset width length) ∨
    (∃ tag offset size, x.fault length = .truncated tag offset size length) ∨
    ∃ size, x.defect = .tooSmall size ∧ x.fault length = .recordSize x.tag.byte size.toNat := by
  obtain ⟨offset, tag, defect⟩ := x
  cases defect with
  | valueCut width => exact .inl ⟨_, _, rfl⟩
  | sizeMissing => exact .inl ⟨_, _, rfl⟩
  | bodyCut size => exact .inr (.inl ⟨_, _, _, rfl⟩)
  | tooSmall size => exact .inr (.inr ⟨size, rfl, rfl⟩)

theorem isFirst_of_items {items : List Item} (hfits : ∀ i ∈ items, i.Fits)
    (h : Holds frame start (items.flatMap Item.encode))
    (hoffset : start + (items.flatMap Item.encode).length = x.offset)
    (htag : frame[x.offset]? = some x.tag.byte) (hdefect : x.defect.At frame x.offset x.tag) :
    x.IsFirst frame start where
  start_le := by omega
  before := ⟨items, hfits,
    (Bytes.range_eq_iff_holds (by omega) (hoffset ▸ h.length_le)).2 ⟨h, hoffset⟩⟩
  tag := htag
  defect := hdefect

theorem IsFirst.offset_lt (h : x.IsFirst frame start) : x.offset < frame.length :=
  (List.getElem?_eq_some_iff.1 h.tag).1

theorem IsFirst.exists_items (h : x.IsFirst frame start) : ∃ items : List Item,
    (∀ i ∈ items, i.Fits) ∧ Holds frame start (items.flatMap Item.encode) ∧
      start + (items.flatMap Item.encode).length = x.offset := by
  obtain ⟨items, hfits, hrange⟩ := h.before
  exact ⟨items, hfits, (Bytes.range_eq_iff_holds h.start_le (Nat.le_of_lt h.offset_lt)).1 hrange⟩

/-- An item in front of the first faulty one changes nothing. -/
theorem IsFirst.behind {i : Item} (hi : i.Fits) (hholds : Holds frame start i.encode)
    (h : x.IsFirst frame (start + i.width)) : x.IsFirst frame start := by
  obtain ⟨items, hfits, hitems, hoffset⟩ := h.exists_items
  rw [← i.length_encode] at hitems hoffset
  have hfits' : ∀ j ∈ i :: items, j.Fits := List.forall_mem_cons.2 ⟨hi, hfits⟩
  refine isFirst_of_items hfits' ?_ ?_ h.tag h.defect
  · rw [List.flatMap_cons]
    exact Bytes.holds_append_iff.2 ⟨hholds, hitems⟩
  · rw [List.flatMap_cons, List.length_append]
    omega

theorem IsFirst.readItem_eq_error (h : x.IsFirst frame start) :
    readItem frame x.offset x.tag = .error (x.fault frame.length) :=
  (readItem_eq_error_iff h.offset_lt).2 ⟨x.defect, h.defect, rfl⟩

/-- The scan fails at the first faulty item. -/
theorem IsFirst.scan_eq_error (h : x.IsFirst frame start) :
    scan frame start = .error (x.fault frame.length) := by
  obtain ⟨items, hfits, hitems, hoffset⟩ := h.exists_items
  rw [scan_behind hfits hitems, hoffset, scan_of_tag h.tag, h.readItem_eq_error]
  rfl

/-- What stands at a faulty item is no item. -/
theorem IsFirst.not_holds (h : x.IsFirst frame start) {i : Item} (hi : i.Fits) :
    ¬Holds frame x.offset i.encode := by
  intro hholds
  obtain ⟨htag, hread⟩ := readItem_of_holds hi hholds
  rw [Tag.eq_of_getElem? htag h.tag, h.readItem_eq_error] at hread
  cases hread

/-- A faulty item does not come behind another one. -/
theorem IsFirst.offset_le (hx : x.IsFirst frame start) (hy : y.IsFirst frame start) :
    y.offset ≤ x.offset := by
  obtain ⟨items, hfits, hitems, hoffset⟩ := hx.exists_items
  obtain ⟨items', hfits', hitems', hoffset'⟩ := hy.exists_items
  rcases prefix_or_prefix_of_holds hfits hfits' hitems hitems' with ⟨rest, rfl⟩ | ⟨rest, rfl⟩
  · cases rest with
    | nil => simp [← hoffset, ← hoffset']
    | cons i rest =>
      -- The next item of the longer run stands where the shorter one ends.
      rw [List.flatMap_append, Bytes.holds_append_iff, hoffset, List.flatMap_cons,
        Bytes.holds_append_iff] at hitems'
      exact absurd hitems'.2.1 (hx.not_holds (hfits' i (by simp)))
  · rw [← hoffset, ← hoffset', List.flatMap_append, List.length_append]
    omega

theorem IsFirst.unique (hx : x.IsFirst frame start) (hy : y.IsFirst frame start) : x = y := by
  have hoffset : x.offset = y.offset := Nat.le_antisymm (hy.offset_le hx) (hx.offset_le hy)
  have htag : x.tag = y.tag := Tag.eq_of_getElem? hx.tag (hoffset ▸ hy.tag)
  obtain ⟨offset, tag, defect⟩ := x
  obtain ⟨offset', tag', defect'⟩ := y
  obtain rfl : offset = offset' := hoffset
  obtain rfl : tag = tag' := htag
  obtain rfl : defect = defect' := hx.defect.unique hy.defect
  rfl

end FaultyItem

/-- The scan fails if and only if there is a first faulty item, and with what is said of it. -/
theorem scan_eq_error_iff : scan frame offset = .error e ↔
    ∃ x : FaultyItem, x.IsFirst frame offset ∧ x.fault frame.length = e := by
  constructor
  · intro h
    -- On what is left of the frame: the scan goes on behind each item that it reads.
    induction hrest : frame.length - offset using Nat.strongRecOn generalizing offset with
    | ind n ih =>
      subst hrest
      by_cases htag : ∃ tag : Tag, frame[offset]? = some tag.byte
      · obtain ⟨tag, htag⟩ := htag
        have hinside : offset < frame.length := (List.getElem?_eq_some_iff.1 htag).1
        rw [scan_of_tag htag] at h
        obtain hitem | ⟨i, hi, h⟩ := Result.bind_eq_error_iff.1 h
        · obtain ⟨d, hd, hfault⟩ := (readItem_eq_error_iff hinside).1 hitem
          refine ⟨⟨offset, tag, d⟩, ?_, hfault⟩
          exact FaultyItem.isFirst_of_items (List.forall_mem_nil _)
            (Bytes.holds_iff_drop.2 ⟨Nat.le_of_lt hinside, _, rfl⟩) rfl htag hd
        · obtain hscan | ⟨_, -, h⟩ := Result.bind_eq_error_iff.1 h
          · obtain ⟨rfl, hfits, hcontent⟩ := readItem_eq_ok_iff.1 hi
            have hholds : Holds frame offset i.encode := Item.holds_encode_iff.2 ⟨htag, hcontent⟩
            have hwidth := i.two_le_width
            obtain ⟨x, hx, hfault⟩ := ih _ (by omega) hscan rfl
            exact ⟨x, hx.behind hfits hholds, hfault⟩
          · cases h
      · rw [scan_of_no_tag (not_exists.1 htag)] at h
        cases h
  · rintro ⟨x, hx, rfl⟩
    exact hx.scan_eq_error

/-! ## Refused frames -/

theorem decode_eq_error_iff (hheader : itemsOffset ≤ frame.length) : decode frame = .error e ↔
    ∃ x : FaultyItem, x.IsFirst frame itemsOffset ∧ x.fault frame.length = e := by
  rw [decode_eq hheader, Result.map_eq_error_iff, scan_eq_error_iff]

/-- A frame is refused if and only if what comes after its header is no run of items with a tail. -/
theorem exists_decode_eq_error_iff (hheader : itemsOffset ≤ frame.length) :
    (∃ e, decode frame = .error e) ↔
      ¬∃ items tail, Stream (frame.drop itemsOffset) items tail := by
  simp only [decode_eq hheader, Result.map_eq_error_iff, ← scan_eq_ok_iff hheader]
  cases scan frame itemsOffset with
  | error e => simp
  | ok items => simp

/-- A frame that ends inside its header is refused for the first field that does. Any other frame is
    refused if and only if there is a first faulty item, which is determined by the frame, and the
    error is what is said of this item. -/
theorem decode_refuses_first_faulty (frame : Bytes) :
    (frame.length < 9 → decode frame = .error (.outOfBounds 1 8 frame.length)) ∧
    (9 ≤ frame.length → frame.length < itemsOffset →
      decode frame = .error (.outOfBounds 10 4 frame.length)) ∧
    (itemsOffset ≤ frame.length →
      ((∃ e, decode frame = .error e) ↔ ∃! x : FaultyItem, x.IsFirst frame itemsOffset) ∧
      ∀ x : FaultyItem, x.IsFirst frame itemsOffset →
        decode frame = .error (x.fault frame.length)) := by
  refine ⟨fun hlength => ?_, fun hlength hheader => ?_, fun hheader => ?_⟩
  · rw [decode, Wire.be64, Wire.bigEndian, Wire.slice_eq_error (by omega)]
    rfl
  · rw [itemsOffset] at hheader
    obtain ⟨eui, heui⟩ := Wire.exists_be64_eq_ok frame 1 (by omega)
    rw [decode, heui, Wire.be32, Wire.bigEndian, Wire.slice_eq_error (by omega)]
    rfl
  · refine ⟨⟨?_, ?_⟩, fun x hx => (decode_eq_error_iff hheader).2 ⟨x, hx, rfl⟩⟩
    · rintro ⟨e, he⟩
      obtain ⟨x, hx, -⟩ := (decode_eq_error_iff hheader).1 he
      exact ⟨x, hx, fun y hy => hy.unique hx⟩
    · rintro ⟨x, hx, -⟩
      exact ⟨_, (decode_eq_error_iff hheader).2 ⟨x, hx, rfl⟩⟩

/-- A satellite fix of one byte that looks like a tag, a temperature, and a Wi-Fi record that
    declares three bytes, which is too few, and of which the frame has two. -/
theorem decode_refuses_first_faulty_wifi :
    let frame : Bytes := [0x01, 0, 0, 0, 0, 0, 0, 0, 7, 0x41, 0, 0, 0, 9] ++
      [0x61, 9, 1, 0, 0, 0, 0, 0, 0, 2, 0x10] ++ [0x50, 0xF6] ++ [0x62, 3, 0x30, 1]
    itemsOffset ≤ frame.length ∧ decode frame = .error (.truncated 0x62 27 3 31) ∧
      ∃! x : FaultyItem, x.IsFirst frame itemsOffset := by
  intro frame
  have hlength : itemsOffset ≤ frame.length := by decide
  have hfirst : (FaultyItem.mk 27 .wifi (.bodyCut 3)).IsFirst frame itemsOffset :=
    { start_le := by decide
      before := ⟨[.gnss 1 2 [0x10], .temperature (-10)], by simp [Item.Fits], by decide⟩
      tag := rfl
      defect := ⟨⟨wifiHeader, rfl⟩, rfl, by decide⟩ }
  obtain ⟨-, -, h⟩ := decode_refuses_first_faulty frame
  obtain ⟨hiff, herror⟩ := h hlength
  have hdecode := herror _ hfirst
  exact ⟨hlength, hdecode, hiff.1 ⟨_, hdecode⟩⟩

end LoraGateway.Telemetry
