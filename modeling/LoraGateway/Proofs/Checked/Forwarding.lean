import LoraGateway.Proofs.Checked.Emission
import LoraGateway.Proofs.Checked.MacFrame
import LoraGateway.Proofs.Checked.Telemetry
import LoraGateway.Proofs.Emission
import LoraGateway.Proofs.ItemStream

/-!
# No frame leaves the bounds of an access

Whatever bytes come in, decoding them and writing what they decode to stays inside the bounds of
every access (`forward?_eq_forward`). Decoding and writing agree with their counterparts each for
itself (`agrees_uplink`, `forward?_eq_some`); what links the two is that the byte strings of a
decoded frame are no longer than the frame (`bounded_of_decode`). The readers check their bounds
themselves, but behind the checks of lengths there is nothing that they could refuse
(`ReadsSucceed`).
-/

namespace LoraGateway.Checked

/-- Tells what a frame is and reads it. -/
def uplink (frame : Bytes) (filters : Filters) : Run Discard Uplink := do
  if frame.isEmpty then
    throw (.malformed .empty)
  let marked ← access (isMarked? frame)
  if marked then
    orDiscard (Uplink.telemetry <$> telemetry frame)
  else if Mac.isForeign frame then
    pure (.raw frame)
  else
    let mhdr ← access (index? frame 0)
    if (FrameType.ofHeader mhdr).isJoin then
      Uplink.join <$> joinRequest frame filters.joinEui
    else
      Uplink.data <$> dataFrame frame filters.netId

/-- Decodes a frame and writes it: the kind of the message, or why there is none. -/
def forward? (frame : Bytes) (filters : Filters) (o : MessageOptions) (s : Sinks) :
    Option (Except Discard Kind × Sinks) := do
  match ← (uplink frame filters).run with
  | .ok u =>
    let s ← emit? s o u
    some (.ok u.kind, s)
  | .error d =>
    let line ← discardLine? frame d
    some (.error d, s.addLines [line])

theorem agrees_uplink {frame : Bytes} (hframe : frame.length < 2 ^ 63) (filters : Filters) :
    Agrees (uplink frame filters) (Uplink.decode frame filters) := by
  have hword : frame.length < 2 ^ 64 := by omega
  cases frame with
  | nil => exact agrees_throw _
  | cons mhdr rest =>
    rw [Uplink.decode_cons, uplink]
    refine Agrees.behind (isMarked?_eq_some _) ?_
    cases Telemetry.isMarked (mhdr :: rest) with
    | true => exact ((agrees_telemetry hframe).map Uplink.telemetry).mapError Discard.malformed
    | false =>
      cases Mac.isForeign (mhdr :: rest) with
      | true => exact agrees_pure _
      | false =>
        refine Agrees.behind (show index? (mhdr :: rest) 0 = some mhdr from rfl) ?_
        cases (FrameType.ofHeader mhdr).isJoin with
        | true => exact (agrees_joinRequest hword filters.joinEui).map Uplink.join
        | false => exact (agrees_dataFrame hword filters.netId).map Uplink.data

/-- The size of a record is a byte. -/
theorem length_recordBytes_le {i : Telemetry.Item} {r : Record} (hfits : i.Fits)
    (h : i.record? = some r) : (recordBytes r).length ≤ 251 := by
  cases i with
  | gnss timestamp status fix =>
    cases h
    exact Nat.le_trans hfits (by decide)
  | wifi timestamp body =>
    cases h
    exact Nat.le_trans (List.length_take_le' ..) hfits
  | _ => cases h

/-- The byte strings of a decoded frame are no longer than the frame. -/
theorem bounded_of_decode {frame : Bytes} {filters : Filters} {u : Uplink}
    (hframe : frame.length < 2 ^ 63) (h : Uplink.decode frame filters = .ok u) : Bounded u := by
  have horigin := Uplink.decode_eq_ok_iff.1 h
  cases u with
  | join j => trivial
  | data d =>
    obtain ⟨hencode, -, -, -, hpayload⟩ := DataFrame.decode_eq_ok_iff.1 horigin.2.2
    have hlength := (DataFrame.eq_encode_iff.1 hencode).1
    have hle : d.payload.length ≤ d.body.length := by
      rw [← (DataFrame.body_eq_iff.1 ⟨rfl, hpayload⟩).2, List.length_tail]
      exact Nat.sub_le _ _
    exact ⟨by omega, by omega⟩
  | raw payload =>
    rw [Bounded, ← horigin.2.2.2]
    exact hframe
  | telemetry t =>
    have hdecode := horigin.2
    simp only [Telemetry.decode, Result.bind_eq_ok_iff, Result.pure_eq_ok_iff] at hdecode
    obtain ⟨_, -, fcnt, hfcnt, items, hitems, rfl⟩ := hdecode
    have hroom : Telemetry.itemsOffset ≤ frame.length := by
      have hle := (Wire.be32_eq_ok_iff.1 hfcnt).length_le
      rwa [Bytes.length_beBytes] at hle
    obtain ⟨tail, hstream⟩ := (Telemetry.scan_eq_ok_iff hroom).1 hitems
    -- A record comes of an item of the frame, and the body of an item fits its size byte.
    refine ⟨fun r hr => ?_, hframe⟩
    obtain ⟨i, hi, hrecord⟩ := List.mem_filterMap.1 hr
    exact Nat.lt_of_le_of_lt (length_recordBytes_le (hstream.fits i hi) hrecord) (by decide)

theorem forward?_eq_some {frame : Bytes} (hframe : frame.length < 2 ^ 63) (filters : Filters)
    (o : MessageOptions) (s : Sinks) :
    forward? frame filters o s = some (forward frame filters o s) := by
  rw [forward?, agrees_uplink hframe filters, forward]
  cases h : Uplink.decode frame filters with
  | ok u =>
    have hemit := emit?_eq_some s o (bounded_of_decode hframe h)
    simp only [Option.bind_eq_bind, Option.bind_some, hemit]
  | error d =>
    simp only [Option.bind_eq_bind, Option.bind_some, discardLine?_eq_some d]

/-- Behind the checks of its length, no read of a frame is refused. -/
structure ReadsSucceed (frame : Bytes) : Prop where
  join : frame.length = Mac.joinLength → Succeeds (le64 frame 1) ∧ Succeeds (byte frame 0) ∧
    Succeeds (le64 frame 9) ∧ Succeeds (le16 frame 17) ∧ Succeeds (trailingMic frame)
  data : ∀ (fctrl : UInt8) (micOffset : Nat), Agrees (byte frame 5) (.ok fctrl) →
    micOffset? frame.length (Mac.optionsOffset + fctrl.toNat % 16) = some micOffset →
    Succeeds (le32 frame 1) ∧ Succeeds (byte frame 0) ∧ Succeeds (le16 frame 6) ∧
      Succeeds (ofExcept (bytesAt frame Mac.optionsOffset (fctrl.toNat % 16))) ∧
      Succeeds (leSigned32 frame micOffset)
  header : isMarked? frame = some true → Succeeds (be64 frame 1) ∧ Succeeds (be32 frame 10)
  gnss : ∀ body : Bytes, body.length ≤ frame.length → ¬body.length < Telemetry.gnssHeader →
    Succeeds (le32 body 0) ∧ Succeeds (be32 body 4)
  wifi : ∀ body : Bytes, body.length ≤ frame.length → ¬body.length < Telemetry.wifiHeader →
    Succeeds (le32 body 0)

theorem readsSucceed {frame : Bytes} (hframe : frame.length < 2 ^ 64) : ReadsSucceed frame where
  join hlength := by
    have hroom : frame.length = 23 := hlength
    refine ⟨(agrees_le64 hframe 1).succeeds (Wire.exists_le64_eq_ok _ _ (by omega)),
      (agrees_byte hframe 0).succeeds (Wire.exists_byte_eq_ok _ _ (by omega)),
      (agrees_le64 hframe 9).succeeds (Wire.exists_le64_eq_ok _ _ (by omega)),
      (agrees_le16 hframe 17).succeeds (Wire.exists_le16_eq_ok _ _ (by omega)), ?_⟩
    have hmic : Mac.micLength ≤ frame.length := by rw [hroom]; decide
    refine (agrees_trailingMic hframe hmic).succeeds (Wire.exists_leSigned32_eq_ok _ _ ?_)
    exact Nat.le_of_eq (Nat.sub_add_cancel hmic)
  data fctrl micOffset _ hmic := by
    rw [micOffset?_eq, Option.ite_none_left_eq_some] at hmic
    obtain ⟨hroom, hoffset⟩ := hmic
    obtain rfl := Option.some.inj hoffset
    simp only [Mac.optionsOffset, Mac.micLength] at hroom ⊢
    refine ⟨(agrees_le32 hframe 1).succeeds (Wire.exists_le32_eq_ok _ _ (by omega)),
      (agrees_byte hframe 0).succeeds (Wire.exists_byte_eq_ok _ _ (by omega)),
      (agrees_le16 hframe 6).succeeds (Wire.exists_le16_eq_ok _ _ (by omega)), ?_,
      (agrees_leSigned32 hframe _).succeeds (Wire.exists_leSigned32_eq_ok _ _ (by omega))⟩
    rw [bytesAt_eq_slice hframe]
    exact (agrees_ofExcept _).succeeds (Wire.exists_slice_eq_ok _ _ _ (by omega))
  header hmarked := by
    rw [isMarked?_eq_some, Option.some.injEq, Telemetry.isMarked, Bool.and_eq_true,
      Bool.and_eq_true, decide_eq_true_eq] at hmarked
    have hroom : 14 ≤ frame.length := hmarked.1.1
    exact ⟨(agrees_be64 hframe 1).succeeds (Wire.exists_be64_eq_ok _ _ (by omega)),
      (agrees_be32 hframe 10).succeeds (Wire.exists_be32_eq_ok _ _ (by omega))⟩
  gnss body hbody hlength := by
    have hword : body.length < 2 ^ 64 := Nat.lt_of_le_of_lt hbody hframe
    have hroom : 8 ≤ body.length := Nat.le_of_not_lt hlength
    exact ⟨(agrees_le32 hword 0).succeeds (Wire.exists_le32_eq_ok _ _ (by omega)),
      (agrees_be32 hword 4).succeeds (Wire.exists_be32_eq_ok _ _ (by omega))⟩
  wifi body hbody hlength :=
    (agrees_le32 (Nat.lt_of_le_of_lt hbody hframe) 0).succeeds
      (Wire.exists_le32_eq_ok _ _ (Nat.le_of_not_lt hlength))

/-- No frame makes its decoding or the writing of what it decodes to leave the bounds of an access:
    with checked access, what comes of it is the same. Behind the checks of lengths, no read is
    refused. -/
theorem forward?_eq_forward {frame : Bytes} (hframe : frame.length < 2 ^ 63) :
    (∀ (filters : Filters) (o : MessageOptions) (s : Sinks),
      forward? frame filters o s = some (forward frame filters o s)) ∧
    ReadsSucceed frame :=
  ⟨forward?_eq_some hframe, readsSucceed (by omega)⟩

/-- Telemetry whose GNSS record is as small as it may be and whose Wi-Fi record ends in the middle
    of a station. -/
theorem forward?_eq_forward_telemetry :
    let frame : Bytes :=
      [0x01, 0, 0x16, 0xC0, 1, 0xF0, 0x1A, 0x33, 0x38, 0x41, 0, 0, 0x2F, 0x9E,
        0x61, 8, 1, 2, 3, 4, 5, 6, 7, 8,
        0x62, 13, 1, 2, 3, 4, 0xC0, 0xA1, 0xB2, 0xC3, 0xD4, 0xE5, 0xF6, 0x07, 0xC1, 0x50, 0xF0]
    (∃ s, forward? frame {} { macFormat := .colon } {} = some (.ok .gnssWifi, s)) ∧
      Succeeds (be64 frame 1) ∧ Succeeds (be32 frame 10) := by
  intro frame
  have hframe : frame.length < 2 ^ 63 := by decide
  obtain ⟨htraps, hreads⟩ := forward?_eq_forward hframe
  have hdecode : (Uplink.decode frame {}).map Uplink.kind = .ok .gnssWifi := by cbv
  have hmarked : isMarked? frame = some true := by decide
  obtain ⟨u, hu, hkind⟩ := Result.map_eq_ok_iff.1 hdecode
  refine ⟨⟨Sinks.emit {} { macFormat := .colon } u, ?_⟩, hreads.header hmarked⟩
  rw [htraps, forward, hu, ← hkind]

end LoraGateway.Checked
