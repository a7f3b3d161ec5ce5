import Mathlib.Data.List.Nodup
import LoraGateway.Proofs.Checked.Telemetry
import LoraGateway.Proofs.FaultyItem

/-!
# The progress of the telemetry scan

An iteration of the scan reads one item and goes on behind it (`Iteration`), and a run is one
iteration after the other (`Runs`). Each of them goes forward by the bytes that it has read, even
where these bytes say how many they are. So a run neither leaves the frame nor reads a byte twice,
and comes to an end.

* `Iteration.holds`, `Iteration.two_le`, `Iteration.advances`, `Iteration.keeps`: what one iteration
  reads, and how far it goes;
* `Runs.holds`, `Runs.two_mul_length_le`, `Runs.flatMap_positions`: the same of a run, by induction
  on its iterations;
* `exists_runs_ends`, `Runs.prefix_of_ends`: there is a run that ends, and every other one is a part
  of it.
-/

namespace LoraGateway

/-- The bytes of a frame that a record keeps. -/
def Record.kept : Record → Bytes
  | .gnss _ _ fix => fix
  | .wifi _ beacons => beacons

/-- The width of what a record reads in front of the bytes that it keeps. -/
def Record.header : Record → Nat
  | .gnss .. => Telemetry.gnssHeader
  | .wifi .. => Telemetry.wifiHeader

namespace Telemetry

open Bytes (Holds)
open Checked (Scan Agrees)

variable {frame : Bytes}

/-- In the bytes of an item, behind its tag, its size and its header, stands what is kept of it. -/
theorem Item.holds_kept {item : Item} {r : Record} {offset : Nat}
    (h : Holds frame offset item.encode) (hr : item.record? = some r) :
    Holds frame (offset + 2 + r.header) r.kept ∧ 2 + r.header + r.kept.length ≤ item.width := by
  cases item with
  | gnss timestamp status fix =>
    cases hr
    obtain ⟨-, hfix⟩ := Bytes.holds_append_iff.1 h
    refine ⟨?_, Nat.le_refl _⟩
    simpa [Record.header, Record.kept, gnssHeader] using hfix
  | wifi timestamp body =>
    cases hr
    -- The stations are the start of what stands behind the header.
    obtain ⟨-, hbody⟩ := Bytes.holds_append_iff.1 h
    rw [← List.take_append_drop (body.length / beaconWidth * beaconWidth) body,
      Bytes.holds_append_iff] at hbody
    refine ⟨?_, Nat.add_le_add_left (List.length_take_le' ..) _⟩
    simpa [Record.header, Record.kept, wifiHeader] using hbody.1
  | _ => cases hr

/-! ## Iterations -/

/-- An iteration of the scan that completes: the tag at the offset of the scan, and the item that is
    read behind it. -/
structure Iteration (frame : Bytes) where
  /-- The scan in front of the item. -/
  before : Scan
  tag : Tag
  item : Item
  tag_at : frame[before.offset]? = some tag.byte
  read : readItem frame before.offset tag = .ok item

namespace Iteration

/-- The scan behind the item. -/
def behind (i : Iteration frame) : Scan :=
  i.before.after i.item

/-- The offsets of the bytes that the scan leaves behind. -/
def positions (i : Iteration frame) : List Nat :=
  List.range' i.before.offset (i.behind.offset - i.before.offset)

/-- The scan goes forward over a tag and what stands behind it: a value of the width of this tag, or
    a size and as many bytes as it says. -/
def Advances (i : Iteration frame) : Prop :=
  match i.tag.form with
  | .value width => i.behind.offset = i.before.offset + (1 + width)
  | .record _ => ∃ size, frame[i.before.offset + 1]? = some size ∧
    i.behind.offset = i.before.offset + (2 + size.toNat)

/-- What a record keeps stands in the frame, behind its tag, its size and its header, and ends where
    the scan goes on or in front of it. -/
def Keeps (i : Iteration frame) (r : Record) : Prop :=
  Holds frame (i.before.offset + 2 + r.header) r.kept ∧
    i.before.offset + 2 + r.header + r.kept.length ≤ i.behind.offset

variable {i j : Iteration frame}

theorem offset_behind : i.behind.offset = i.before.offset + i.item.width :=
  rfl

theorem tag_item : i.item.tag = i.tag :=
  (readItem_eq_ok_iff.1 i.read).1

theorem fits : i.item.Fits :=
  (readItem_eq_ok_iff.1 i.read).2.1

/-- The bytes of the item stand in the frame. -/
theorem holds : Holds frame i.before.offset i.item.encode :=
  Item.holds_encode_iff.2 ⟨i.tag_item ▸ i.tag_at, (readItem_eq_ok_iff.1 i.read).2.2⟩

theorem two_le : i.before.offset + 2 ≤ i.behind.offset :=
  Nat.add_le_add_left i.item.two_le_width _

theorem advances : i.Advances := by
  rw [Advances, offset_behind]
  cases hform : i.tag.form with
  | value width => rw [Item.width_of_value (i.tag_item ▸ hform)]
  | record header =>
    obtain ⟨size, rest, hcontent, hwidth⟩ := Item.exists_size_of_record i.fits (i.tag_item ▸ hform)
    have hbody := (Item.holds_encode_iff.1 i.holds).2
    rw [hcontent, Bytes.holds_cons_iff, Bytes.holds_singleton_iff] at hbody
    exact ⟨size, hbody.1, by rw [hwidth]⟩

theorem keeps {r : Record} (hr : i.item.record? = some r) : i.Keeps r := by
  obtain ⟨hkept, hend⟩ := Item.holds_kept i.holds hr
  rw [Keeps, offset_behind]
  exact ⟨hkept, by omega⟩

/-- An iteration is determined by where it starts. -/
theorem eq_of_before (h : i.before = j.before) : i = j := by
  obtain ⟨s, tag, item, htag, hread⟩ := i
  obtain ⟨s', tag', item', htag', hread'⟩ := j
  obtain rfl : s = s' := h
  obtain rfl : tag = tag' := Tag.eq_of_getElem? htag htag'
  obtain rfl : item = item' := Except.ok.inj (hread.symm.trans hread')
  rfl

/-- With checked access, the iterations are the steps of the scan that complete. -/
theorem agrees_step_iff (hframe : frame.length < 2 ^ 63) {s t : Scan} {tag : Tag}
    (htag : frame[s.offset]? = some tag.byte) :
    Agrees (s.step frame tag) (.ok t) ↔ ∃ i : Iteration frame, i.before = s ∧ i.behind = t := by
  have hinside : s.offset < frame.length := (List.getElem?_eq_some_iff.1 htag).1
  have hstep := Checked.agrees_step hframe hinside tag
  constructor
  · intro h
    obtain ⟨item, hread, hafter⟩ := Result.map_eq_ok_iff.1 (Option.some.inj (hstep.symm.trans h))
    exact ⟨⟨s, tag, item, htag, hread⟩, rfl, hafter⟩
  · rintro ⟨i, rfl, rfl⟩
    obtain rfl : i.tag = tag := Tag.eq_of_getElem? i.tag_at htag
    rwa [i.read] at hstep

end Iteration

/-! ## Runs -/

/-- The given iterations, one after the other, bring the scan from one place to another. -/
inductive Runs (frame : Bytes) : Scan → List (Iteration frame) → Scan → Prop
  | nil (s : Scan) : Runs frame s [] s
  | cons {s t : Scan} {i : Iteration frame} {is : List (Iteration frame)} (hbefore : i.before = s)
    (h : Runs frame i.behind is t) : Runs frame s (i :: is) t

/-- How the scan ends where no iteration completes. -/
inductive Ends (frame : Bytes) (s : Scan) : Except Malformed Scan → Prop
  /-- At the end of the frame or at a byte that is no tag. -/
  | done (h : ∀ tag : Tag, frame[s.offset]? ≠ some tag.byte) : Ends frame s (.ok s)
  /-- At a tag behind which no item can be read. -/
  | refused {tag : Tag} {e : Malformed} (htag : frame[s.offset]? = some tag.byte)
    (h : readItem frame s.offset tag = .error e) : Ends frame s (.error e)

namespace Ends

variable {s : Scan} {y : Except Malformed Scan}

/-- No iteration starts where the scan ends. -/
theorem not_before (h : Ends frame s y) (i : Iteration frame) : i.before ≠ s := by
  rintro rfl
  cases h with
  | done h => exact h i.tag i.tag_at
  | refused htag h =>
    obtain rfl := Tag.eq_of_getElem? htag i.tag_at
    cases h.symm.trans i.read

theorem scan_eq (h : Ends frame s y) : scan frame s.offset = y.map fun _ => [] := by
  cases h with
  | done h => exact scan_of_no_tag h
  | refused htag h =>
    rw [scan_of_tag htag, h]
    rfl

theorem agrees_run (hframe : frame.length < 2 ^ 63) (h : Ends frame s y) :
    Agrees (s.run frame) y := by
  have hrun := Checked.agrees_run hframe s
  rw [h.scan_eq] at hrun
  cases h with
  | done h => exact hrun
  | refused htag h => exact hrun

end Ends

namespace Runs

variable {s t s' t' : Scan} {is is' : List (Iteration frame)}

/-- A run reads the bytes of its items, one after the other, and goes forward by them. -/
theorem holds (h : Runs frame s is t) (hs : s.offset ≤ frame.length) :
    Holds frame s.offset ((is.map (·.item)).flatMap Item.encode) ∧
      s.offset + ((is.map (·.item)).flatMap Item.encode).length = t.offset := by
  induction h with
  | nil s => exact ⟨Bytes.holds_iff_drop.2 ⟨hs, _, rfl⟩, rfl⟩
  | @cons s t i is hbefore h ih =>
    subst hbefore
    have hlength := i.item.length_encode
    have hbehind : i.behind.offset ≤ frame.length := by
      rw [Iteration.offset_behind, ← hlength]
      exact i.holds.length_le
    obtain ⟨hrest, hend⟩ := ih hbehind
    rw [Iteration.offset_behind, ← hlength] at hrest hend
    rw [List.map_cons, List.flatMap_cons, Bytes.holds_append_iff, List.length_append,
      ← Nat.add_assoc]
    exact ⟨⟨i.holds, hrest⟩, hend⟩

theorem offset_le (h : Runs frame s is t) (hs : s.offset ≤ frame.length) :
    t.offset ≤ frame.length := by
  obtain ⟨hholds, hend⟩ := h.holds hs
  rw [← hend]
  exact hholds.length_le

theorem two_mul_length_le (h : Runs frame s is t) : s.offset + 2 * is.length ≤ t.offset := by
  induction h with
  | nil s => exact Nat.le_refl _
  | @cons s t i is hbefore h ih =>
    subst hbefore
    have htwo := i.two_le
    rw [List.length_cons]
    omega

/-- The bytes that a run reads are those between its ends, each of them once and in their order. -/
theorem flatMap_positions (h : Runs frame s is t) :
    is.flatMap Iteration.positions = List.range' s.offset (t.offset - s.offset) := by
  induction h with
  | nil s => rw [Nat.sub_self, List.range'_zero, List.flatMap_nil]
  | @cons s t i is hbefore h ih =>
    subst hbefore
    have htwo := i.two_le
    have hrest := h.two_mul_length_le
    have hstart : i.behind.offset = i.before.offset + (i.behind.offset - i.before.offset) := by
      omega
    have hwidth : t.offset - i.before.offset =
        (i.behind.offset - i.before.offset) + (t.offset - i.behind.offset) := by omega
    rw [List.flatMap_cons, ih, Iteration.positions, hwidth, ← List.range'_append_1, ← hstart]

/-- No byte is read by two iterations. -/
theorem pairwise_disjoint (h : Runs frame s is t) :
    is.Pairwise fun i j => i.positions.Disjoint j.positions := by
  have hnodup : (is.flatMap Iteration.positions).Nodup := by
    rw [h.flatMap_positions]
    exact List.nodup_range'
  exact (List.nodup_flatMap.1 hnodup).2

theorem foldl_after (h : Runs frame s is t) : (is.map (·.item)).foldl Scan.after s = t := by
  induction h with
  | nil s => rfl
  | cons hbefore h ih =>
    subst hbefore
    exact ih

theorem records_eq (h : Runs frame s is t) :
    t.records = s.records ++ is.filterMap (·.item.record?) := by
  rw [← h.foldl_after, (Checked.foldl_after s _).1, List.filterMap_map]
  rfl

/-- Behind a run, the scan finds what it finds from there on. -/
theorem scan_eq (h : Runs frame s is t) (hs : s.offset ≤ frame.length) :
    scan frame s.offset = (scan frame t.offset).map (is.map (·.item) ++ ·) := by
  obtain ⟨hholds, hend⟩ := h.holds hs
  have hfits : ∀ item ∈ is.map (·.item), item.Fits := by
    rw [List.forall_mem_map]
    exact fun i _ => i.fits
  rw [scan_behind hfits hholds, hend]

/-- With checked access, the scan gets to where a run brings it. -/
theorem run_eq (hframe : frame.length < 2 ^ 63) (h : Runs frame s is t)
    (hs : s.offset ≤ frame.length) : s.run frame = t.run frame := by
  have hs' := Checked.agrees_run hframe s
  have ht := Checked.agrees_run hframe t
  rw [h.scan_eq hs] at hs'
  have hfold : ((scan frame t.offset).map (is.map (·.item) ++ ·)).map
      (fun items => items.foldl Scan.after s) =
      (scan frame t.offset).map fun items => items.foldl Scan.after t := by
    cases scan frame t.offset with
    | error e => rfl
    | ok items =>
      refine congrArg Except.ok ?_
      simp only [List.foldl_append, h.foldl_after]
  rw [hfold] at hs'
  exact ExceptT.ext (hs'.trans ht.symm)

/-- Every run from the same place is a part of one that ends. -/
theorem prefix_of_ends {y : Except Malformed Scan} (h : Runs frame s is t) (hend : Ends frame t y)
    (h' : Runs frame s is' t') : is' <+: is := by
  induction h generalizing is' with
  | nil s =>
    cases h' with
    | nil => exact List.nil_prefix
    | @cons _ _ i _ hbefore _ =>
      subst hbefore
      exact absurd rfl (hend.not_before i)
  | @cons s t i is hbefore h ih =>
    cases h' with
    | nil => exact List.nil_prefix
    | @cons _ _ i' rest hbefore' h' =>
      obtain rfl := Iteration.eq_of_before (hbefore'.trans hbefore.symm)
      exact (List.prefix_cons_inj i').2 (ih hend h')

end Runs

/-- The scan comes to an end: by induction on what is left of the frame. -/
theorem exists_runs_ends (frame : Bytes) (s : Scan) :
    ∃ is t y, Runs frame s is t ∧ Ends frame t y := by
  induction hrest : frame.length - s.offset using Nat.strongRecOn generalizing s with
  | ind rest ih =>
    by_cases htag : ∃ tag : Tag, frame[s.offset]? = some tag.byte
    · obtain ⟨tag, htag⟩ := htag
      cases hread : readItem frame s.offset tag with
      | error e => exact ⟨[], s, .error e, .nil s, .refused htag hread⟩
      | ok item =>
        let i : Iteration frame := ⟨s, tag, item, htag, hread⟩
        have hinside : s.offset < frame.length := (List.getElem?_eq_some_iff.1 htag).1
        have htwo : s.offset + 2 ≤ i.behind.offset := i.two_le
        obtain ⟨is, t, y, hruns, hend⟩ := ih _ (by omega) i.behind rfl
        exact ⟨i :: is, t, y, .cons rfl hruns, hend⟩
    · exact ⟨[], s, .ok s, .nil s, .done (not_exists.1 htag)⟩

/-! ## The scan of a frame -/

/-- How far the scan of a frame has come by the given iterations. -/
structure Progress (frame : Bytes) (is : List (Iteration frame)) (s : Scan) : Prop where
  start_le : itemsOffset ≤ s.offset
  le_length : s.offset ≤ frame.length
  forward : ∀ i ∈ is, i.before.offset + 2 ≤ i.behind.offset ∧ i.Advances
  length_le : is.length ≤ (frame.length - itemsOffset) / 2
  disjoint : is.Pairwise fun i j => i.positions.Disjoint j.positions
  contiguous : is.flatMap Iteration.positions = List.range' itemsOffset (s.offset - itemsOffset)
  records : s.records = is.filterMap (·.item.record?)
  keeps : ∀ i ∈ is, ∀ r ∈ i.item.record?, i.Keeps r

theorem Runs.progress {s : Scan} {is : List (Iteration frame)}
    (hroom : itemsOffset ≤ frame.length) (h : Runs frame {} is s) : Progress frame is s where
  start_le := Nat.le_trans (Nat.le_add_right ..) h.two_mul_length_le
  le_length := h.offset_le hroom
  forward i _ := ⟨i.two_le, i.advances⟩
  length_le := by
    have hlength : itemsOffset + 2 * is.length ≤ s.offset := h.two_mul_length_le
    have hend := h.offset_le hroom
    omega
  disjoint := h.pairwise_disjoint
  contiguous := h.flatMap_positions
  records := h.records_eq
  keeps _ _ _ hr := Iteration.keeps hr

/-- The frame is refused or reported as the scan ends. -/
theorem Runs.decode_eq {s : Scan} {is : List (Iteration frame)} {y : Except Malformed Scan}
    (hroom : itemsOffset ≤ frame.length) (h : Runs frame {} is s) (hend : Ends frame s y) :
    (decode frame).map (fun t => (t.records, t.status)) = y.map fun s => (s.records, s.status) := by
  have hscan : scan frame itemsOffset = _ := h.scan_eq hroom
  rw [Telemetry.decode_eq hroom, hscan, hend.scan_eq]
  cases hend with
  | done hdone =>
    have hitems := h.foldl_after
    simp only [Except.map, ofFrame, Checked.ofItems_eq, List.append_nil, hitems]
  | refused htag hread => rfl

/-- However far the scan of a frame comes, its offset is inside the frame: each iteration goes
    forward by what it reads, so that there are not more of them than every second byte. They read
    the bytes behind the header one after the other, and what a record keeps stands among those of
    its own iteration. One of these runs ends, and all others are parts of it; the frame is refused
    or reported as it ends. With checked access, these iterations are the steps of the scan, which
    goes through the same places to the same end. -/
theorem scan_progress {frame : Bytes} (hroom : itemsOffset ≤ frame.length) :
    (∀ is s, Runs frame {} is s → Progress frame is s) ∧
    (∃ is s y, Runs frame {} is s ∧ Ends frame s y ∧
      (∀ is' s', Runs frame {} is' s' → is' <+: is) ∧
      (decode frame).map (fun t => (t.records, t.status)) =
        y.map fun s => (s.records, s.status)) ∧
    (frame.length < 2 ^ 63 →
      (∀ (s t : Scan) (tag : Tag), frame[s.offset]? = some tag.byte →
        (Agrees (s.step frame tag) (.ok t) ↔
          ∃ i : Iteration frame, i.before = s ∧ i.behind = t)) ∧
      ∀ is s, Runs frame {} is s → ({} : Scan).run frame = s.run frame ∧
        ∀ y, Ends frame s y → Agrees (({} : Scan).run frame) y) := by
  obtain ⟨is, s, y, h, hend⟩ := exists_runs_ends frame {}
  refine ⟨fun is s h => h.progress hroom, ⟨is, s, y, h, hend, ?_, h.decode_eq hroom hend⟩, ?_⟩
  · exact fun is' s' h' => h.prefix_of_ends hend h'
  · intro hframe
    refine ⟨fun s t tag htag => Iteration.agrees_step_iff hframe htag, fun is s h => ?_⟩
    have hrun := h.run_eq hframe hroom
    refine ⟨hrun, fun y hend => ?_⟩
    rw [hrun]
    exact hend.agrees_run hframe

/-- A Wi-Fi record with one byte that is no station, flags, and an energy value that is cut off. -/
theorem scan_progress_cut :
    let frame : Bytes := [0x01, 0, 0, 0, 0, 0, 0, 0, 7, 0x41, 0, 0, 0, 9] ++
      [0x62, 5, 1, 0, 0, 0, 0xAA] ++ [0x30, 0x81] ++ [0x11, 0]
    itemsOffset ≤ frame.length ∧ ∃ is s, Runs frame {} is s ∧ Progress frame is s ∧
      is.map (·.item) = [.wifi 1 [0xAA], .flags 0x81] ∧ s.offset = 23 := by
  intro frame
  have hroom : itemsOffset ≤ frame.length := by decide
  let wifi : Iteration frame := ⟨{}, .wifi, .wifi 1 [0xAA], rfl, rfl⟩
  let flags : Iteration frame := ⟨wifi.behind, .flags, .flags 0x81, rfl, rfl⟩
  have hruns : Runs frame {} [wifi, flags] flags.behind := .cons rfl (.cons rfl (.nil _))
  exact ⟨hroom, _, _, hruns, (scan_progress hroom).1 _ _ hruns, rfl, rfl⟩

end Telemetry

end LoraGateway
