import LoraGateway.Proofs.FaultyItem
import LoraGateway.Proofs.MacFrame
import LoraGateway.Proofs.Screening

/-!
# Which frames are malformed, and which are passed on

A frame is malformed in five cases (`Uplink.MalformedAs`), which depend on its bytes alone: it is
empty, it is marked as telemetry and has a faulty item, or it is a MAC frame and too short for what
its header announces (or, for a join request, of the wrong length). A frame that is neither marked
nor a MAC frame is passed on.

* `JoinRequest.decode_eq_malformed_iff`, `DataFrame.decode_eq_malformed_iff`: the decoders of MAC
  frames, each of whose reads behind its checks succeeds;
* `Uplink.MalformedAs.decode_eq`, `Uplink.malformedAs_of_decode_eq`: the decoder of all frames, from
  the five cases to the errors and back;
* `Uplink.decode_eq_decodeUnmarked`: telemetry is told apart in front of what is done with all other
  frames;
* `Uplink.decode_malformed_or_raw_iff`: no frame that is marked as telemetry is missed there.
-/

namespace LoraGateway

/-! ## Headers -/

theorem FrameType.ofHeader_eq_proprietary_iff (mhdr : UInt8) :
    ofHeader mhdr = .proprietary ↔ mhdr >>> 5 = 0b111 :=
  ofHeader_eq_iff mhdr .proprietary

/-- The marker in place of the header is that of no MAC frame. -/
theorem Mac.isForeign_of_marker {frame : Bytes} (h : frame[0]? = some 0x01) :
    isForeign frame = true := by
  cases frame with
  | nil => cases h
  | cons mhdr rest =>
    obtain rfl : mhdr = 0x01 := Option.some.inj h
    exact Bool.or_true _

/-! ## The decoders of MAC frames -/

section MacFrame

variable {frame : Bytes} {fault : Malformed}

theorem JoinRequest.decode_eq_malformed_iff {filter : JoinEuiFilter} :
    decode frame filter = .error (.malformed fault) ↔
      frame.length ≠ 23 ∧ fault = .joinLength frame.length := by
  by_cases hlen : frame.length = 23
  · obtain ⟨j, hj⟩ := exists_decode_eq hlen
    rw [hj]
    split_ifs <;> simp [hlen]
  · rw [decode_of_length_ne hlen]
    simp [hlen, eq_comm]

theorem DataFrame.decode_eq_malformed_iff {filter : NetIdFilter} :
    decode frame filter = .error (.malformed fault) ↔
      frame.length < 6 ∧ fault = .outOfBounds 5 1 frame.length ∨
      ∃ fctrl, frame[5]? = some fctrl ∧ frame.length < 12 + (fctrl &&& 0x0F).toNat ∧
        fault = .noRoomForMic (8 + (fctrl &&& 0x0F).toNat) frame.length := by
  by_cases hlen : frame.length < 6
  · have hnone : frame[5]? = none := List.getElem?_eq_none (Nat.le_of_lt_succ hlen)
    rw [decode_of_length_lt hlen, hnone]
    simp [hlen, eq_comm]
  · obtain ⟨fctrl, hfctrl⟩ := Wire.exists_byte_eq_ok frame 5 (Nat.le_of_not_lt hlen)
    have hsome : frame[5]? = some fctrl :=
      Bytes.holds_singleton_iff.1 (Wire.byte_eq_ok_iff.1 hfctrl)
    simp only [hlen, false_and, false_or, hsome, Option.some.injEq, exists_eq_left',
      ← FrameType.optionsLength_eq]
    have hend : Mac.optionsOffset + fctrl.toNat % 16 + Mac.micLength = 12 + fctrl.toNat % 16 := by
      simp only [Mac.optionsOffset, Mac.micLength]
      omega
    by_cases hroom : frame.length < 12 + fctrl.toNat % 16
    · rw [decode_of_no_room hfctrl (hend ▸ hroom)]
      simp [hroom, Mac.optionsOffset, eq_comm]
    · obtain ⟨d, hd⟩ := exists_decode_eq hfctrl (hend ▸ Nat.le_of_not_lt hroom)
      rw [hd]
      split_ifs <;> simp [hroom]

end MacFrame

namespace Uplink

open Telemetry (FaultyItem Stream isMarked itemsOffset)

/-- When a frame is malformed, and what is said of it. -/
inductive MalformedAs (frame : Bytes) : Malformed → Prop
  | empty : frame = [] → MalformedAs frame .empty
  /-- The frame is marked as telemetry, and one of its items cannot be read. -/
  | telemetry {x : FaultyItem} : isMarked frame = true → x.IsFirst frame itemsOffset →
    MalformedAs frame (x.fault frame.length)
  /-- The frame is a join or rejoin request by its header, and not by its length. -/
  | joinLength {mhdr : UInt8} : frame[0]? = some mhdr → mhdr &&& 0x1F = 0 →
    mhdr >>> 5 = 0b000 ∨ mhdr >>> 5 = 0b110 → 12 ≤ frame.length → frame.length ≠ 23 →
    MalformedAs frame (.joinLength frame.length)
  /-- The frame is proprietary, and ends in front of FCtrl. -/
  | noControl {mhdr : UInt8} : frame[0]? = some mhdr → mhdr &&& 0x1F = 0 → mhdr >>> 5 = 0b111 →
    frame.length < 6 → MalformedAs frame (.outOfBounds 5 1 frame.length)
  /-- The frame is one of data, and its options leave no room for the integrity code. -/
  | noRoom {mhdr fctrl : UInt8} : frame[0]? = some mhdr → mhdr &&& 0x1F = 0 →
    mhdr >>> 5 ≠ 0b000 ∧ mhdr >>> 5 ≠ 0b110 → 12 ≤ frame.length ∨ mhdr >>> 5 = 0b111 →
    frame[5]? = some fctrl → frame.length < 12 + (fctrl &&& 0x0F).toNat →
    MalformedAs frame (.noRoomForMic (8 + (fctrl &&& 0x0F).toNat) frame.length)

/-- Tells what a frame is and reads it, without asking for the markers of telemetry. -/
def decodeUnmarked (frame : Bytes) (filters : Filters) : Except Discard Uplink :=
  match frame with
  | [] => .error (.malformed .empty)
  | mhdr :: _ =>
    if Mac.isForeign frame then .ok (.raw frame)
    else if (FrameType.ofHeader mhdr).isJoin then
      (JoinRequest.decode frame filters.joinEui).map .join
    else (DataFrame.decode frame filters.netId).map .data

variable {frame : Bytes} {filters : Filters}

/-! ## One class at a time -/

theorem exists_cons_of_header {mhdr : UInt8} (h : frame[0]? = some mhdr) :
    ∃ rest, frame = mhdr :: rest := by
  cases frame with
  | nil => cases h
  | cons b rest => exact ⟨rest, by rw [Option.some.inj h]⟩

theorem decode_eq_decodeUnmarked (frame : Bytes) (filters : Filters) : decode frame filters =
    if isMarked frame then ((Telemetry.decode frame).map .telemetry).mapError .malformed
    else decodeUnmarked frame filters := by
  cases frame with
  | nil => rfl
  | cons mhdr rest => exact decode_cons mhdr rest

theorem decodeUnmarked_of_isMarked (h : isMarked frame = true) :
    decodeUnmarked frame filters = .ok (.raw frame) := by
  have hmarker := (Telemetry.isMarked_iff.1 h).2.1
  cases frame with
  | nil => cases hmarker
  | cons mhdr rest => exact if_pos (Mac.isForeign_of_marker hmarker)

/-- Each of the cases makes a frame malformed. -/
theorem MalformedAs.decode_eq {fault : Malformed} (h : MalformedAs frame fault)
    (filters : Filters) : decode frame filters = .error (.malformed fault) := by
  cases h with
  | empty hempty =>
    subst hempty
    rfl
  | telemetry hmarked hx =>
    have hheader := (Telemetry.isMarked_iff.1 hmarked).1
    rw [decode_eq_decodeUnmarked, if_pos hmarked,
      (Telemetry.decode_eq_error_iff hheader).2 ⟨_, hx, rfl⟩]
    rfl
  | @joinLength mhdr hmhdr hreserved htype hmin hlen =>
    obtain ⟨rest, rfl⟩ := exists_cons_of_header hmhdr
    rw [decode_of_isMac (isMac_iff.2 ⟨hreserved, .inl hmin⟩),
      if_pos ((FrameType.isJoin_ofHeader_iff mhdr).2 htype),
      JoinRequest.decode_eq_malformed_iff.2 ⟨hlen, rfl⟩]
    rfl
  | @noControl mhdr hmhdr hreserved htype hlen =>
    obtain ⟨rest, rfl⟩ := exists_cons_of_header hmhdr
    have hproprietary := (FrameType.ofHeader_eq_proprietary_iff mhdr).2 htype
    rw [decode_of_isMac (isMac_iff.2 ⟨hreserved, .inr hproprietary⟩), hproprietary]
    rw [if_neg (by decide), DataFrame.decode_eq_malformed_iff.2 (.inl ⟨hlen, rfl⟩)]
    rfl
  | @noRoom mhdr fctrl hmhdr hreserved htype hmin hfctrl hlen =>
    obtain ⟨rest, rfl⟩ := exists_cons_of_header hmhdr
    have hroom := hmin.imp_right (FrameType.ofHeader_eq_proprietary_iff mhdr).2
    have hjoin := (FrameType.isJoin_ofHeader_eq_false_iff mhdr).2 htype
    rw [decode_of_isMac (isMac_iff.2 ⟨hreserved, hroom⟩), hjoin, if_neg Bool.false_ne_true,
      DataFrame.decode_eq_malformed_iff.2 (.inr ⟨fctrl, hfctrl, hlen, rfl⟩)]
    rfl

/-- A frame is malformed in one of the cases, whichever class of frames it was taken for. -/
theorem malformedAs_of_decode_eq {fault : Malformed}
    (h : decode frame filters = .error (.malformed fault)) : MalformedAs frame fault := by
  cases frame with
  | nil =>
    cases h
    exact .empty rfl
  | cons mhdr rest =>
    rw [decode_cons] at h
    split_ifs at h with hmarked hforeign hjoin
    · obtain ⟨_, h, ⟨⟩⟩ := Result.mapError_eq_error_iff.1 h
      have hheader := (Telemetry.isMarked_iff.1 hmarked).1
      obtain ⟨x, hx, rfl⟩ :=
        (Telemetry.decode_eq_error_iff hheader).1 (Result.map_eq_error_iff.1 h)
      exact .telemetry hmarked hx
    · obtain ⟨hreserved, hmin⟩ := isForeign_eq_false_iff.1 (Bool.eq_false_of_not_eq_true hforeign)
      obtain ⟨hlen, rfl⟩ := JoinRequest.decode_eq_malformed_iff.1 (Result.map_eq_error_iff.1 h)
      -- A join request is not proprietary, so it is only here if it is long enough.
      refine .joinLength rfl hreserved ((FrameType.isJoin_ofHeader_iff mhdr).1 hjoin)
        (hmin.resolve_right fun hproprietary => ?_) hlen
      rw [hproprietary] at hjoin
      cases hjoin
    · obtain ⟨hreserved, hmin⟩ := isForeign_eq_false_iff.1 (Bool.eq_false_of_not_eq_true hforeign)
      have hmin := hmin.imp_right (FrameType.ofHeader_eq_proprietary_iff mhdr).1
      have htype :=
        (FrameType.isJoin_ofHeader_eq_false_iff mhdr).1 (Bool.eq_false_of_not_eq_true hjoin)
      obtain ⟨hlen, rfl⟩ | ⟨fctrl, hfctrl, hlen, rfl⟩ :=
        DataFrame.decode_eq_malformed_iff.1 (Result.map_eq_error_iff.1 h)
      -- Only a proprietary frame gets here without its FCtrl.
      · exact .noControl rfl hreserved (hmin.resolve_left (by rw [Mac.dataMinLength]; omega)) hlen
      · exact .noRoom rfl hreserved htype hmin hfctrl hlen

/-- What is malformed in a frame that is marked as telemetry is one of its items. -/
theorem MalformedAs.exists_isFirst {fault : Malformed} (h : MalformedAs frame fault)
    (hmarked : isMarked frame = true) :
    ∃ x : FaultyItem, x.IsFirst frame itemsOffset ∧ x.fault frame.length = fault := by
  have hdecode := h.decode_eq {}
  rw [decode_eq_decodeUnmarked, if_pos hmarked] at hdecode
  obtain ⟨_, hdecode, ⟨⟩⟩ := Result.mapError_eq_error_iff.1 hdecode
  have hheader := (Telemetry.isMarked_iff.1 hmarked).1
  exact (Telemetry.decode_eq_error_iff hheader).1 (Result.map_eq_error_iff.1 hdecode)

theorem decode_eq_raw_iff {payload : Bytes} : decode frame filters = .ok (.raw payload) ↔
    payload = frame ∧ isMarked frame = false ∧ ∃ mhdr : UInt8, frame[0]? = some mhdr ∧
      (frame.length < 12 ∧ mhdr >>> 5 ≠ 0b111 ∨ mhdr &&& 0x1F ≠ 0) := by
  rw [decode_eq_ok_iff, Origin]
  cases frame with
  | nil => simp
  | cons mhdr rest =>
    have hforeign : Mac.isForeign (mhdr :: rest) = true ↔
        (mhdr :: rest).length < 12 ∧ mhdr >>> 5 ≠ 0b111 ∨ mhdr &&& 0x1F ≠ 0 := by
      rw [← Bool.not_eq_false, isForeign_eq_false_iff, FrameType.ofHeader_eq_proprietary_iff,
        not_and_or, not_or, Nat.not_le, or_comm, Mac.dataMinLength]
    rw [hforeign]
    constructor
    · rintro ⟨-, hunmarked, hheader, rfl⟩
      exact ⟨rfl, hunmarked, mhdr, rfl, hheader⟩
    · rintro ⟨rfl, hunmarked, _, ⟨⟩, hheader⟩
      exact ⟨List.cons_ne_nil _ _, hunmarked, hheader, rfl⟩

/-- The malformed frames, and those that are passed on. A frame is malformed in the five cases,
    under all filters; if it is marked as telemetry, this is so if and only if what comes after its
    header is no run of items with a tail. It is passed on as it is if and only if it is neither empty nor
    marked, and is too short or has a reserved or version bit set. The markers take no frame away
    from the decoders of MAC frames: without being asked for them, a marked frame is passed on. -/
theorem decode_malformed_or_raw_iff (frame : Bytes) (filters : Filters) :
    (∀ fault, decode frame filters = .error (.malformed fault) ↔ MalformedAs frame fault) ∧
    (isMarked frame = true →
      ((∃ fault, decode frame filters = .error (.malformed fault)) ↔
        ¬∃ items tail, Stream (frame.drop itemsOffset) items tail) ∧
      ∀ fault, decode frame filters = .error (.malformed fault) →
        (∃ offset width, fault = .outOfBounds offset width frame.length) ∨
        (∃ tag offset size, fault = .truncated tag offset size frame.length) ∨
        ∃ tag size, fault = .recordSize tag size) ∧
    (∀ payload, decode frame filters = .ok (.raw payload) ↔
      payload = frame ∧ isMarked frame = false ∧ ∃ mhdr : UInt8, frame[0]? = some mhdr ∧
        (frame.length < 12 ∧ mhdr >>> 5 ≠ 0b111 ∨ mhdr &&& 0x1F ≠ 0)) ∧
    (isMarked frame = false → decode frame filters = decodeUnmarked frame filters) ∧
    (isMarked frame = true → decodeUnmarked frame filters = .ok (.raw frame)) := by
  have hcases (fault : Malformed) :
      decode frame filters = .error (.malformed fault) ↔ MalformedAs frame fault :=
    ⟨malformedAs_of_decode_eq, fun h => h.decode_eq filters⟩
  refine ⟨hcases, fun hmarked => ⟨?_, fun fault h => ?_⟩, fun payload => decode_eq_raw_iff,
    fun hunmarked => ?_, decodeUnmarked_of_isMarked⟩
  · have hheader := (Telemetry.isMarked_iff.1 hmarked).1
    rw [← Telemetry.exists_decode_eq_error_iff hheader]
    simp only [hcases, Telemetry.decode_eq_error_iff hheader]
    constructor
    · rintro ⟨fault, h⟩
      exact ⟨fault, h.exists_isFirst hmarked⟩
    · rintro ⟨_, x, hx, rfl⟩
      exact ⟨_, .telemetry hmarked hx⟩
  · obtain ⟨x, -, rfl⟩ := ((hcases fault).1 h).exists_isFirst hmarked
    exact (x.fault_cases frame.length).imp_right
      (Or.imp_right fun ⟨size, _, hfault⟩ => ⟨x.tag.byte, size.toNat, hfault⟩)
  · rw [decode_eq_decodeUnmarked, hunmarked]
    rfl

/-- A battery value of which one byte is left, under filters that bar every network: malformed as
    telemetry, and not anything else. -/
theorem decode_malformed_or_raw_iff_battery :
    let frame : Bytes := [0x01, 0, 0, 0, 0, 0, 0, 0, 7, 0x41, 0, 0, 0, 9] ++ [0x10, 0x0C]
    let filters : Filters := { netId := .nothing }
    isMarked frame = true ∧
      decode frame filters = .error (.malformed (.outOfBounds 15 2 16)) ∧
      (¬∃ items tail, Stream (frame.drop itemsOffset) items tail) ∧
      decodeUnmarked frame filters = .ok (.raw frame) := by
  intro frame filters
  have hmarked : isMarked frame = true := by decide
  have hfirst : (FaultyItem.mk 14 .battery (.valueCut 2)).IsFirst frame itemsOffset :=
    { start_le := by decide
      before := ⟨[], List.forall_mem_nil _, by decide⟩
      tag := rfl
      defect := ⟨rfl, by decide⟩ }
  obtain ⟨hmalformed, htelemetry, -, -, hunmarked⟩ := decode_malformed_or_raw_iff frame filters
  have hdecode := (hmalformed _).2 (.telemetry hmarked hfirst)
  exact ⟨hmarked, hdecode, (htelemetry hmarked).1.1 ⟨_, hdecode⟩, hunmarked hmarked⟩

end Uplink

end LoraGateway
