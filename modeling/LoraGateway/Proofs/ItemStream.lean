import LoraGateway.Frame.Telemetry
import LoraGateway.Proofs.Field

/-!
# The items of a telemetry frame

After its header, a telemetry frame is a run of items and then a tail that starts with no tag, if it
is not empty (`Telemetry.Stream`). Reading the items accepts exactly these runs, so that bytes are
such a run in one way at most.

* `readItem_eq_ok_iff`: the item at an offset is read if and only if its bytes stand there;
* `scan_eq_ok_iff`: the scan, by induction on the items it found;
* `Stream.unique`: the items and the tail are determined by the bytes.
-/

namespace LoraGateway.Telemetry

open Bytes (Holds leBytes beBytes)

/-! ## Items -/

namespace Item

/-- The tag of an item. -/
def tag : Item → Tag
  | .battery _ => .battery
  | .energy _ => .energy
  | .chargeTime _ => .chargeTime
  | .flags _ => .flags
  | .resets _ => .resets
  | .temperature _ => .temperature
  | .gnss .. => .gnss
  | .wifi .. => .wifi

/-- What an item can hold: three bytes hold a count of resets, and 255 bytes the header of a record
    and the rest of it. -/
def Fits : Item → Prop
  | .resets v => v.toNat < Bytes.size 3
  | .gnss _ _ fix => fix.length ≤ 247
  | .wifi _ body => body.length ≤ 251
  | _ => True

/-- The bytes of an item after its tag. -/
def content (i : Item) : Bytes :=
  i.encode.tail

theorem encode_eq_cons (i : Item) : i.encode = i.tag.byte :: i.content := by
  cases i <;> rfl

theorem holds_encode_iff {frame : Bytes} {offset : Nat} {i : Item} : Holds frame offset i.encode ↔
    frame[offset]? = some i.tag.byte ∧ Holds frame (offset + 1) i.content := by
  rw [encode_eq_cons, Bytes.holds_cons_iff, Bytes.holds_singleton_iff]

theorem tag_eq_gnss_iff {i : Item} :
    i.tag = .gnss ↔ ∃ timestamp status fix, i = .gnss timestamp status fix := by
  cases i <;> simp [tag]

theorem tag_eq_wifi_iff {i : Item} :
    i.tag = .wifi ↔ ∃ timestamp body, i = .wifi timestamp body := by
  cases i <;> simp [tag]

end Item

namespace Tag

theorem ofByte?_eq_some_iff (b : UInt8) (tag : Tag) : ofByte? b = some tag ↔ b = tag.byte := by
  revert b
  cases tag <;> exact Bytes.forall_byte (by decide +kernel)

theorem ofByte?_eq_none_iff (b : UInt8) : ofByte? b = none ↔ ∀ tag : Tag, b ≠ tag.byte := by
  rw [Option.eq_none_iff_forall_ne_some]
  exact forall_congr' fun tag => not_congr (ofByte?_eq_some_iff b tag)

theorem byte_injective {tag tag' : Tag} (h : tag.byte = tag'.byte) : tag = tag' := by
  have hsome := (ofByte?_eq_some_iff tag.byte tag).2 rfl
  rw [h, (ofByte?_eq_some_iff _ _).2 rfl] at hsome
  exact (Option.some.inj hsome).symm

/-- At one offset there is one tag at most. -/
theorem eq_of_getElem? {frame : Bytes} {offset : Nat} {tag tag' : Tag}
    (h : frame[offset]? = some tag.byte) (h' : frame[offset]? = some tag'.byte) : tag = tag' :=
  byte_injective (Option.some.inj (h.symm.trans h'))

end Tag

variable {frame body bs : Bytes} {offset : Nat}

/-- A record is its size and as many bytes. -/
theorem recordBody_eq_ok_iff {tag : Tag} : recordBody frame offset tag = .ok body ↔
    body.length < 256 ∧ Holds frame (offset + 1) (UInt8.ofNat body.length :: body) := by
  rw [recordBody, Result.bind_eq_ok_iff, Bytes.holds_cons_iff]
  simp only [Result.mapError_eq_ok_iff, Wire.slice_eq_ok_iff, Wire.byte_eq_ok_iff]
  constructor
  · rintro ⟨size, hsize, hlen, hbody⟩
    rw [hlen, UInt8.ofNat_toNat]
    exact ⟨size.toNat_lt, hsize, hbody⟩
  · rintro ⟨hlt, hsize, hbody⟩
    exact ⟨_, hsize, (UInt8.toNat_ofNat_of_lt' hlt).symm, hbody⟩

theorem gnssOfBody_eq_ok_iff {i : Item} : gnssOfBody body = .ok i ↔
    ∃ timestamp status fix, i = .gnss timestamp status fix ∧
      body = leBytes 4 timestamp.toNat ++ beBytes 4 status.toNat ++ fix := by
  rw [gnssOfBody]
  simp only [Result.bind_eq_ok_iff, Result.ite_throw_eq_ok_iff, Result.pure_eq_ok_iff,
    Wire.le32_eq_ok_iff, Wire.be32_eq_ok_iff]
  constructor
  · -- The two words fill the header of the record, so what is behind it is the fix.
    rintro ⟨-, timestamp, ht, status, hs, rfl⟩
    have hheader : Holds body 0 (leBytes 4 timestamp.toNat ++ beBytes 4 status.toNat) := by
      rw [Bytes.holds_append_iff, Bytes.length_leBytes]
      exact ⟨ht, hs⟩
    obtain ⟨-, fix, hbody⟩ := Bytes.holds_iff_drop.1 hheader
    refine ⟨timestamp, status, fix, ?_, hbody⟩
    rw [← List.drop_zero (l := body), hbody, List.drop_left' (by simp [gnssHeader])]
  · rintro ⟨timestamp, status, fix, rfl, rfl⟩
    refine ⟨by simp [gnssHeader]; omega, timestamp, ⟨[], _, List.append_assoc .., rfl⟩, status,
      ⟨_, fix, rfl, by simp⟩, ?_⟩
    rw [List.drop_left' (by simp [gnssHeader])]

theorem wifiOfBody_eq_ok_iff {i : Item} : wifiOfBody body = .ok i ↔
    ∃ timestamp rest, i = .wifi timestamp rest ∧ body = leBytes 4 timestamp.toNat ++ rest := by
  rw [wifiOfBody]
  simp only [Result.bind_eq_ok_iff, Result.ite_throw_eq_ok_iff, Result.pure_eq_ok_iff,
    Wire.le32_eq_ok_iff]
  constructor
  · rintro ⟨-, timestamp, ht, rfl⟩
    obtain ⟨-, rest, hbody⟩ := Bytes.holds_iff_drop.1 ht
    refine ⟨timestamp, rest, ?_, hbody⟩
    rw [← List.drop_zero (l := body), hbody, List.drop_left' (by simp [wifiHeader])]
  · rintro ⟨timestamp, rest, rfl, rfl⟩
    refine ⟨by simp [wifiHeader], timestamp, ⟨[], rest, rfl, rfl⟩, ?_⟩
    rw [List.drop_left' (by simp [wifiHeader])]

/-- Behind its tag, an item is read if and only if it is one of this tag whose bytes stand there. -/
theorem readItem_eq_ok_iff {tag : Tag} {i : Item} : readItem frame offset tag = .ok i ↔
    i.tag = tag ∧ i.Fits ∧ Holds frame (offset + 1) i.content := by
  cases tag with
  | gnss =>
    rw [readItem, Result.bind_eq_ok_iff]
    simp only [recordBody_eq_ok_iff, gnssOfBody_eq_ok_iff]
    constructor
    · rintro ⟨_, ⟨hlt, h⟩, timestamp, status, fix, rfl, rfl⟩
      simp only [List.length_append, Bytes.length_leBytes, Bytes.length_beBytes] at hlt h
      exact ⟨rfl, show fix.length ≤ 247 by omega, h⟩
    · rintro ⟨htag, hfits, h⟩
      obtain ⟨timestamp, status, fix, rfl⟩ := Item.tag_eq_gnss_iff.1 htag
      have hlt : 8 + fix.length < 256 := by
        have : fix.length ≤ 247 := hfits
        omega
      refine ⟨_, ?_, timestamp, status, fix, rfl, rfl⟩
      simp only [List.length_append, Bytes.length_leBytes, Bytes.length_beBytes]
      exact ⟨hlt, h⟩
  | wifi =>
    rw [readItem, Result.bind_eq_ok_iff]
    simp only [recordBody_eq_ok_iff, wifiOfBody_eq_ok_iff]
    constructor
    · rintro ⟨_, ⟨hlt, h⟩, timestamp, rest, rfl, rfl⟩
      simp only [List.length_append, Bytes.length_leBytes] at hlt h
      exact ⟨rfl, show rest.length ≤ 251 by omega, h⟩
    · rintro ⟨htag, hfits, h⟩
      obtain ⟨timestamp, rest, rfl⟩ := Item.tag_eq_wifi_iff.1 htag
      have hlt : 4 + rest.length < 256 := by
        have : rest.length ≤ 251 := hfits
        omega
      refine ⟨_, ?_, timestamp, rest, rfl, rfl⟩
      simp only [List.length_append, Bytes.length_leBytes]
      exact ⟨hlt, h⟩
  | _ =>
    -- A status value: a word of its width.
    rw [readItem, Result.map_eq_ok_iff]
    simp only [Wire.be16_eq_ok_iff, Wire.be24_eq_ok_iff, Wire.be32_eq_ok_iff,
      Wire.byte_eq_ok_iff, Wire.signedByte_eq_ok_iff]
    cases i <;> simp [Item.tag, Item.Fits, Item.content, Item.encode]

/-! ## The scan -/

/-- Bytes that are those of some items, one after the other, and then a tail that is no item. -/
structure Stream (bs : Bytes) (items : List Item) (tail : Bytes) : Prop where
  bytes : bs = items.flatMap Item.encode ++ tail
  fits : ∀ i ∈ items, i.Fits
  ends : ∀ tag : Tag, tail.head? ≠ some tag.byte

theorem scan_of_tag {tag : Tag} (h : frame[offset]? = some tag.byte) : scan frame offset =
    readItem frame offset tag >>= fun i => scan frame (offset + i.width) >>= fun rest =>
      pure (i :: rest) := by
  obtain ⟨hlt, hbyte⟩ := List.getElem?_eq_some_iff.1 h
  rw [scan, dif_pos hlt, hbyte, (Tag.ofByte?_eq_some_iff _ _).2 rfl]

theorem scan_of_no_tag (h : ∀ tag : Tag, frame[offset]? ≠ some tag.byte) :
    scan frame offset = .ok [] := by
  rw [scan]
  by_cases hlt : offset < frame.length
  · have hnone : Tag.ofByte? frame[offset] = none := by
      rw [Tag.ofByte?_eq_none_iff]
      intro tag htag
      exact h tag (List.getElem?_eq_some_iff.2 ⟨hlt, htag⟩)
    rw [dif_pos hlt, hnone]
    rfl
  · rw [dif_neg hlt]
    rfl

theorem scan_eq_nil_iff : scan frame offset = .ok [] ↔
    ∀ tag : Tag, frame[offset]? ≠ some tag.byte := by
  refine ⟨fun h tag htag => ?_, scan_of_no_tag⟩
  rw [scan_of_tag htag, Result.bind_eq_ok_iff] at h
  obtain ⟨_, _, h⟩ := h
  obtain ⟨_, _, h⟩ := Result.bind_eq_ok_iff.1 h
  cases h

/-- The scan starts with an item if and only if the item stands there and the scan goes on with the
    others behind it. -/
theorem scan_eq_cons_iff {i : Item} {rest : List Item} : scan frame offset = .ok (i :: rest) ↔
    i.Fits ∧ Holds frame offset i.encode ∧ scan frame (offset + i.width) = .ok rest := by
  rw [Item.holds_encode_iff]
  constructor
  · intro h
    by_cases htag : ∃ tag : Tag, frame[offset]? = some tag.byte
    · obtain ⟨tag, htag⟩ := htag
      rw [scan_of_tag htag, Result.bind_eq_ok_iff] at h
      obtain ⟨i, hi, h⟩ := h
      obtain ⟨rest, hrest, h⟩ := Result.bind_eq_ok_iff.1 h
      cases h
      obtain ⟨rfl, hfits, hcontent⟩ := readItem_eq_ok_iff.1 hi
      exact ⟨hfits, ⟨htag, hcontent⟩, hrest⟩
    · rw [scan_of_no_tag (not_exists.1 htag)] at h
      cases h
  · rintro ⟨hfits, ⟨htag, hcontent⟩, hrest⟩
    rw [scan_of_tag htag, Result.bind_eq_ok_iff]
    refine ⟨i, readItem_eq_ok_iff.2 ⟨rfl, hfits, hcontent⟩, ?_⟩
    rw [hrest]
    rfl

/-- The scan finds some items if and only if what is left of the frame is the bytes of these items
    and a tail: by induction on the items, each of which ends inside the frame. -/
theorem scan_eq_ok_iff {items : List Item} (h : offset ≤ frame.length) :
    scan frame offset = .ok items ↔ ∃ tail, Stream (frame.drop offset) items tail := by
  induction items generalizing offset with
  | nil =>
    rw [scan_eq_nil_iff, ← List.head?_drop]
    constructor
    · intro hends
      exact ⟨frame.drop offset, rfl, by simp, hends⟩
    · rintro ⟨tail, hbytes, -, hends⟩
      rwa [hbytes]
  | cons i rest ih =>
    rw [scan_eq_cons_iff]
    constructor
    · rintro ⟨hfits, hi, hrest⟩
      -- The scan goes on behind the item, where its bytes have brought it: not past the end.
      have hlen := hi.length_le
      rw [i.length_encode] at hlen
      obtain ⟨tail, hbytes, hfitsRest, hends⟩ := (ih hlen).1 hrest
      obtain ⟨-, after, hafter⟩ := Bytes.holds_iff_drop.1 hi
      have hdrop : after = frame.drop (offset + i.width) := by
        rw [← List.drop_drop, hafter, List.drop_left' i.length_encode]
      refine ⟨tail, ?_, List.forall_mem_cons.2 ⟨hfits, hfitsRest⟩, hends⟩
      rw [hafter, hdrop, hbytes, List.flatMap_cons, List.append_assoc]
    · rintro ⟨tail, hbytes, hfits, hends⟩
      obtain ⟨hfits, hfitsRest⟩ := List.forall_mem_cons.1 hfits
      rw [List.flatMap_cons, List.append_assoc] at hbytes
      have hi : Holds frame offset i.encode := Bytes.holds_iff_drop.2 ⟨h, _, hbytes⟩
      have hlen := hi.length_le
      rw [i.length_encode] at hlen
      refine ⟨hfits, hi, (ih hlen).2 ⟨tail, ?_, hfitsRest, hends⟩⟩
      rw [← List.drop_drop, hbytes, List.drop_left' i.length_encode]

/-- Bytes are a run of items in one way at most: the scan of them finds both. -/
theorem Stream.unique {items items' : List Item} {tail tail' : Bytes} (h : Stream bs items tail)
    (h' : Stream bs items' tail') : items = items' ∧ tail = tail' := by
  have hscan := (scan_eq_ok_iff (Nat.zero_le _)).2 ⟨tail, h⟩
  have hscan' := (scan_eq_ok_iff (Nat.zero_le _)).2 ⟨tail', h'⟩
  rw [hscan, Except.ok.injEq] at hscan'
  subst hscan'
  exact ⟨rfl, List.append_cancel_left (h.bytes.symm.trans h'.bytes)⟩

end LoraGateway.Telemetry
