import Mathlib.Data.List.Infix
import LoraGateway.Proofs.Malformed

/-!
# Telemetry frames that are cut off

A telemetry frame of which the end is lost is never taken for another one that is complete. Where it
is cut decides: in its header, it is passed on as something foreign; between two items, it reports
what stands in front of the cut; and inside an item, that item is its first faulty one, because the
start of an item is no item.

* `exists_cut`: a run of items is cut between two of them or inside one;
* `Item.exists_defect_of_cut`: what is left of an item has a defect, but is not too small for its
  header;
* `stream_take`, `exists_isFirst_take`: what is left of the items of a frame;
* `Uplink.decode_take`: all cuts of a frame.
-/

namespace LoraGateway

/-- A field in front of a cut stands where it stood. -/
theorem Bytes.Holds.take {frame bs : Bytes} {offset k : Nat} (h : Holds frame offset bs)
    (hk : offset + bs.length ≤ k) : Holds (frame.take k) offset bs := by
  rw [holds_iff] at h ⊢
  have hwidth : min bs.length (k - offset) = bs.length := by omega
  rw [List.length_take, List.drop_take, List.take_take, hwidth]
  exact ⟨by omega, h.2⟩

namespace Telemetry

open Bytes (Holds)

variable {frame : Bytes} {items : List Item} {offset k : Nat}

/-! ## Cut items -/

/-- A run of items is cut between two of them or inside one. -/
theorem exists_cut {n : Nat} (h : n ≤ (items.flatMap Item.encode).length) :
    (∃ before, before <+: items ∧ n = (before.flatMap Item.encode).length) ∨
    ∃ before i after, items = before ++ i :: after ∧ (before.flatMap Item.encode).length < n ∧
      n < (before.flatMap Item.encode).length + i.width := by
  induction items generalizing n with
  | nil => exact .inl ⟨[], List.nil_prefix, Nat.le_zero.1 h⟩
  | cons i rest ih =>
    -- The cut is in front of the first item, in it, or behind it and so in the others.
    rw [List.flatMap_cons, List.length_append, i.length_encode] at h
    by_cases hstart : n = 0
    · exact .inl ⟨[], List.nil_prefix, hstart⟩
    · by_cases hinside : n < i.width
      · refine .inr ⟨[], i, rest, rfl, Nat.pos_of_ne_zero hstart, ?_⟩
        rwa [List.flatMap_nil, List.length_nil, Nat.zero_add]
      · have hbehind : n - i.width ≤ (rest.flatMap Item.encode).length := by omega
        rcases ih hbehind with ⟨before, hfront, hn⟩ | ⟨before, j, after, rfl, hlow, hhigh⟩
        · refine .inl ⟨i :: before, (List.prefix_cons_inj i).2 hfront, ?_⟩
          rw [List.flatMap_cons, List.length_append, i.length_encode]
          omega
        · refine .inr ⟨i :: before, j, after, rfl, ?_⟩
          rw [List.flatMap_cons, List.length_append, i.length_encode]
          omega

namespace Item

variable {i : Item}

/-- What is left of an item that is cut behind its tag has a defect, and not that of being too
    small: the size still stands there, if there is anything of a record behind its tag. -/
theorem exists_defect_of_cut (hfits : i.Fits) (h : Holds frame offset i.encode)
    (hlow : offset < k) (hhigh : k < offset + i.width) :
    ∃ d : Defect, d.At (frame.take k) offset i.tag ∧ ∀ size, d ≠ .tooSmall size := by
  have hend := h.length_le
  rw [i.length_encode] at hend
  have hlength : (frame.take k).length = k := List.length_take_of_le (by omega)
  cases hform : i.tag.form with
  | value width =>
    have hwidth := width_of_value hform
    exact ⟨.valueCut width, ⟨hform, by omega⟩, fun size => nofun⟩
  | record header =>
    obtain ⟨size, rest, hcontent, hwidth⟩ := exists_size_of_record hfits hform
    by_cases hsize : k = offset + 1
    · exact ⟨.sizeMissing, ⟨⟨header, hform⟩, hlength.trans hsize⟩, fun size => nofun⟩
    · have hbody := (holds_encode_iff.1 h).2
      rw [hcontent, Bytes.holds_cons_iff, Bytes.holds_singleton_iff] at hbody
      have hleft : (frame.take k)[offset + 1]? = some size := by
        rw [List.getElem?_take_of_lt (by omega), hbody.1]
      exact ⟨.bodyCut size, ⟨⟨header, hform⟩, hleft, by omega⟩, fun size => nofun⟩

end Item

/-- An item that is cut is the first faulty one. -/
theorem exists_isFirst_of_cut {before after : List Item} {i : Item}
    (hfits : ∀ j ∈ before ++ i :: after, j.Fits)
    (h : Holds frame offset ((before ++ i :: after).flatMap Item.encode))
    (hlow : offset + (before.flatMap Item.encode).length < k)
    (hhigh : k < offset + (before.flatMap Item.encode).length + i.width) :
    ∃ x : FaultyItem, x.IsFirst (frame.take k) offset ∧ ∀ size, x.defect ≠ .tooSmall size := by
  rw [List.flatMap_append, List.flatMap_cons, Bytes.holds_append_iff, Bytes.holds_append_iff] at h
  obtain ⟨hbefore, hi, -⟩ := h
  rw [List.forall_mem_append, List.forall_mem_cons] at hfits
  obtain ⟨d, hd, hcut⟩ := Item.exists_defect_of_cut hfits.2.1 hi hlow hhigh
  refine ⟨⟨offset + (before.flatMap Item.encode).length, i.tag, d⟩, ?_, hcut⟩
  refine FaultyItem.isFirst_of_items hfits.1 (hbefore.take (Nat.le_of_lt hlow)) rfl ?_ hd
  rw [List.getElem?_take_of_lt hlow]
  exact (Item.holds_encode_iff.1 hi).1

/-! ## Cut frames -/

theorem isMarked_take (h : isMarked frame = true) (hk : itemsOffset ≤ k) :
    isMarked (frame.take k) = true := by
  rw [isMarked_iff] at h ⊢
  rw [itemsOffset] at h hk ⊢
  obtain ⟨hheader, hfirst, hsecond⟩ := h
  rw [List.length_take, List.getElem?_take_of_lt (by omega), List.getElem?_take_of_lt (by omega)]
  exact ⟨by omega, hfirst, hsecond⟩

/-- What is left of a frame that is cut between two items is a run of the items in front. -/
theorem stream_take {before : List Item}
    (hbytes : frame.drop itemsOffset = items.flatMap Item.encode) (hfits : ∀ i ∈ items, i.Fits)
    (hfront : before <+: items) (hk : k = itemsOffset + (before.flatMap Item.encode).length) :
    Stream ((frame.take k).drop itemsOffset) before [] := by
  obtain ⟨after, rfl⟩ := hfront
  have hwidth : k - itemsOffset = (before.flatMap Item.encode).length := by omega
  refine ⟨?_, fun i hi => hfits i (List.mem_append_left _ hi), fun tag => nofun⟩
  rw [List.drop_take, hwidth, hbytes, List.flatMap_append, List.take_left, List.append_nil]

/-- What is left of a frame that is cut, but not between two items, has a first faulty one. -/
theorem exists_isFirst_take (hbytes : frame.drop itemsOffset = items.flatMap Item.encode)
    (hfits : ∀ i ∈ items, i.Fits) (hheader : itemsOffset ≤ k) (hk : k ≤ frame.length)
    (hinside : ∀ before, before <+: items →
      k ≠ itemsOffset + (before.flatMap Item.encode).length) :
    ∃ x : FaultyItem, x.IsFirst (frame.take k) itemsOffset ∧
      ∀ size, x.defect ≠ .tooSmall size := by
  have hitems : Holds frame itemsOffset (items.flatMap Item.encode) :=
    Bytes.holds_iff_drop.2 ⟨Nat.le_trans hheader hk, [], by rw [hbytes, List.append_nil]⟩
  have hcut : k - itemsOffset ≤ (items.flatMap Item.encode).length := by
    rw [← hbytes, List.length_drop]
    omega
  rcases exists_cut hcut with ⟨before, hfront, hboundary⟩ | ⟨before, i, after, rfl, hlow, hhigh⟩
  · exact absurd (by omega) (hinside before hfront)
  · exact exists_isFirst_of_cut hfits hitems (by omega) (by omega)

end Telemetry

namespace Uplink

open Telemetry (Item isMarked itemsOffset)

variable {frame : Bytes} {items : List Item} {k : Nat}

/-- A telemetry frame that is cut off. In its header, what is left of it is passed on; between two
    items it is telemetry, and reports the items in front of the cut; and inside an item it is
    malformed, because a field or a record ends after the frame. -/
theorem decode_take (hmarked : isMarked frame = true)
    (hbytes : frame.drop itemsOffset = items.flatMap Item.encode) (hfits : ∀ i ∈ items, i.Fits)
    (hpos : 1 ≤ k) (hk : k ≤ frame.length) (filters : Filters) :
    (k < itemsOffset → decode (frame.take k) filters = .ok (.raw (frame.take k))) ∧
    (∀ before, before <+: items → k = itemsOffset + (before.flatMap Item.encode).length →
      ∃ t, decode (frame.take k) filters = .ok (.telemetry t) ∧
        t.Reports (frame.take k) before) ∧
    (itemsOffset ≤ k →
      (∀ before, before <+: items → k ≠ itemsOffset + (before.flatMap Item.encode).length) →
      ∃ fault, decode (frame.take k) filters = .error (.malformed fault) ∧
        ((∃ offset width, fault = .outOfBounds offset width k) ∨
          ∃ tag offset size, fault = .truncated tag offset size k)) := by
  have hlength : (frame.take k).length = k := List.length_take_of_le hk
  refine ⟨fun hheader => ?_, fun before hfront hboundary => ?_, fun hheader hinside => ?_⟩
  · have hunmarked : isMarked (frame.take k) = false := by
      rw [Bool.eq_false_iff, ne_eq, Telemetry.isMarked_iff, hlength]
      exact fun h => absurd h.1 (Nat.not_le.2 hheader)
    -- What is left starts with the first marker, which no MAC frame does.
    refine decode_eq_raw_iff.2 ⟨rfl, hunmarked, 0x01, ?_, .inr (by decide)⟩
    rw [List.getElem?_take_of_lt hpos]
    exact (Telemetry.isMarked_iff.1 hmarked).2.1
  · have hheader : itemsOffset ≤ k := by omega
    have hdecode := Telemetry.decode_of_stream (hlength.symm ▸ hheader)
      (Telemetry.stream_take hbytes hfits hfront hboundary)
    exact ⟨_, decode_eq_ok_iff.2 ⟨Telemetry.isMarked_take hmarked hheader, hdecode⟩,
      Telemetry.reports_ofFrame⟩
  · obtain ⟨x, hx, hdefect⟩ :=
      Telemetry.exists_isFirst_take hbytes hfits hheader hk hinside
    have hmalformed := MalformedAs.telemetry (Telemetry.isMarked_take hmarked hheader) hx
    rw [hlength] at hmalformed
    refine ⟨_, hmalformed.decode_eq filters, (x.fault_cases k).imp_right fun h => ?_⟩
    exact h.resolve_right fun ⟨size, htooSmall, _⟩ => hdefect size htooSmall

/-- A satellite fix of one byte and a battery value, cut in the header, between the two, and in the
    fix. -/
theorem decode_take_fix :
    let frame : Bytes := [0x01, 0, 0, 0, 0, 0, 0, 0, 7, 0x41, 0, 0, 0, 9] ++
      [0x61, 9, 1, 0, 0, 0, 0, 0, 0, 2, 0xAA] ++ [0x10, 0x0C, 0xE4]
    let fix : Item := .gnss 1 2 [0xAA]
    frame.drop itemsOffset = [fix, .battery 0x0CE4].flatMap Item.encode ∧
      decode (frame.take 9) {} = .ok (.raw (frame.take 9)) ∧
      (∃ t, decode (frame.take 25) {} = .ok (.telemetry t) ∧ t.Reports (frame.take 25) [fix]) ∧
      ∃ fault, decode (frame.take 20) {} = .error (.malformed fault) ∧
        ((∃ offset width, fault = .outOfBounds offset width 20) ∨
          ∃ tag offset size, fault = .truncated tag offset size 20) := by
  intro frame fix
  have hmarked : isMarked frame = true := by decide
  have hbytes : frame.drop itemsOffset = [fix, .battery 0x0CE4].flatMap Item.encode := by decide
  have hfits : ∀ i ∈ [fix, .battery 0x0CE4], i.Fits := by simp [fix, Item.Fits]
  have hinside : ∀ before ∈ [fix, .battery 0x0CE4].inits,
      20 ≠ itemsOffset + (before.flatMap Item.encode).length := by decide
  refine ⟨hbytes, ?_, ?_, ?_⟩
  · exact (decode_take hmarked hbytes hfits (by decide) (by decide) {}).1 (by decide)
  · exact (decode_take hmarked hbytes hfits (by decide) (by decide) {}).2.1 [fix]
      ⟨[.battery 0x0CE4], rfl⟩ (by decide)
  · exact (decode_take hmarked hbytes hfits (by decide) (by decide) {}).2.2 (by decide)
      fun before hfront => hinside before ((List.mem_inits before _).2 hfront)

end Uplink

end LoraGateway
