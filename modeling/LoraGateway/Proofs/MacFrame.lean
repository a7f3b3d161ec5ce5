import LoraGateway.Proofs.Field
import LoraGateway.Proofs.Uplink

/-!
# MAC frames are exactly what is written

Neither kind of MAC frame has a delimiter, so that its decoder has to find the fields from offsets
and from the end of the frame. Read together, what it finds is the whole frame: a decoded message
is well-formed and its bytes are the frame, and the frame of every well-formed message that the
filters admit decodes to it.

* `JoinRequest.decode_eq_ok_iff`, `DataFrame.decode_eq_ok_iff`: the decoders of each kind;
* `Uplink.decode_eq_mac_iff`: the decoder of all frames, which asks for telemetry and foreign frames
  before them.
-/

namespace LoraGateway

open Bytes (Holds leBytes)

/-- What a join or rejoin request can be: the header has no bit besides its type. -/
structure JoinRequest.WellFormed (j : JoinRequest) : Prop where
  header : j.mhdr = 0x00 ∨ j.mhdr = 0xC0
  rejoin : j.rejoin = true ↔ j.mhdr >>> 5 = 0b110

/-- What a data frame can be: the reserved and version bits of the header are zero, its type is not
    that of a join or rejoin request, and the options are as long as FCtrl says. -/
structure DataFrame.WellFormed (d : DataFrame) : Prop where
  reserved : d.mhdr &&& 0x1F = 0
  type : d.mhdr >>> 5 ≠ 0b000 ∧ d.mhdr >>> 5 ≠ 0b110
  uplink : d.uplink = true ↔ d.mhdr >>> 5 = 0b010 ∨ d.mhdr >>> 5 = 0b100
  options : d.fopts.length = (d.fctrl &&& 0x0F).toNat
  payload : d.fport = none → d.payload = []

/-! ## Header bytes -/

namespace FrameType

/-- The type of a header is the one whose bits it starts with. -/
theorem ofHeader_eq_iff (mhdr : UInt8) (t : FrameType) :
    ofHeader mhdr = t ↔ mhdr >>> 5 = t.header >>> 5 := by
  revert mhdr
  cases t <;> exact Bytes.forall_byte (by decide +kernel)

theorem ofHeader_eq_rejoinRequest_iff (mhdr : UInt8) :
    (ofHeader mhdr == .rejoinRequest) = true ↔ mhdr >>> 5 = 0b110 := by
  rw [beq_iff_eq, ofHeader_eq_iff]
  rfl

theorem isUplink_ofHeader_iff (mhdr : UInt8) :
    (ofHeader mhdr).isUplink = true ↔ mhdr >>> 5 = 0b010 ∨ mhdr >>> 5 = 0b100 := by
  rw [isUplink, Bool.or_eq_true, beq_iff_eq, beq_iff_eq, ofHeader_eq_iff, ofHeader_eq_iff]
  rfl

theorem isJoin_ofHeader_iff (mhdr : UInt8) :
    (ofHeader mhdr).isJoin = true ↔ mhdr >>> 5 = 0b000 ∨ mhdr >>> 5 = 0b110 := by
  rw [isJoin, Bool.or_eq_true, beq_iff_eq, beq_iff_eq, ofHeader_eq_iff, ofHeader_eq_iff]
  rfl

theorem reserved_and_isJoin_iff (mhdr : UInt8) :
    mhdr &&& 0x1F = 0 ∧ (ofHeader mhdr).isJoin = true ↔ mhdr = 0x00 ∨ mhdr = 0xC0 := by
  revert mhdr
  exact Bytes.forall_byte (by decide +kernel)

theorem isJoin_ofHeader_eq_false_iff (mhdr : UInt8) :
    (ofHeader mhdr).isJoin = false ↔ mhdr >>> 5 ≠ 0b000 ∧ mhdr >>> 5 ≠ 0b110 := by
  rw [← Bool.not_eq_true, isJoin_ofHeader_iff, not_or]

theorem optionsLength_eq (fctrl : UInt8) : fctrl.toNat % 16 = (fctrl &&& 0x0F).toNat := by
  revert fctrl
  exact Bytes.forall_byte (by decide +kernel)

end FrameType

/-! ## Join requests -/

namespace JoinRequest

/-- The fields of a join request stand at fixed offsets of a frame of one length. -/
theorem eq_encode_iff {frame : Bytes} {j : JoinRequest} : frame = j.encode ↔
    frame.length = Mac.joinLength ∧ Holds frame 0 [j.mhdr] ∧
      Holds frame 1 (leBytes 8 j.joinEui.value.toNat) ∧
      Holds frame 9 (leBytes 8 j.devEui.value.toNat) ∧ Holds frame 17 (leBytes 2 j.devNonce.toNat) ∧
      Holds frame 19 (leBytes 4 j.mic.toUInt32.toNat) := by
  have hencode : j.encode = [j.mhdr] ++ (leBytes 8 j.joinEui.value.toNat ++
      (leBytes 8 j.devEui.value.toNat ++ (leBytes 2 j.devNonce.toNat ++
        leBytes 4 j.mic.toUInt32.toNat))) := by
    simp [encode]
  rw [← Bytes.holds_zero_iff, length_encode, hencode, and_comm, eq_comm (a := Mac.joinLength)]
  simp only [Bytes.holds_append_iff, Bytes.length_leBytes, List.length_singleton, Nat.reduceAdd]

theorem decode_eq_ok_iff {frame : Bytes} {filter : JoinEuiFilter} {j : JoinRequest} :
    decode frame filter = .ok j ↔ frame = j.encode ∧ filter.admits j.joinEui = true ∧
      (j.rejoin = true ↔ j.mhdr >>> 5 = 0b110) := by
  simp only [decode, Malformed.orDiscard, Result.bind_eq_ok_iff, Result.map_eq_ok_iff,
    Result.mapError_eq_ok_iff, Result.pure_eq_ok_iff, Result.ite_throw_eq_ok_iff,
    Result.ite_else_throw_eq_ok_iff, Wire.byte_eq_ok_iff, Wire.le64_eq_ok_iff,
    Wire.le16_eq_ok_iff, Wire.leSigned32_eq_ok_iff, ne_eq, Decidable.not_not]
  constructor
  · rintro ⟨hlen, _, ⟨e, he, rfl⟩, hadmits, mhdr, hmhdr, _, ⟨dev, hdev, rfl⟩, nonce, hnonce, mic,
      hmic, rfl⟩
    rw [hlen] at hmic
    exact ⟨eq_encode_iff.2 ⟨hlen, hmhdr, he, hdev, hnonce, hmic⟩, hadmits,
      FrameType.ofHeader_eq_rejoinRequest_iff mhdr⟩
  · rintro ⟨hframe, hadmits, hrejoin⟩
    obtain ⟨hlen, hmhdr, he, hdev, hnonce, hmic⟩ := eq_encode_iff.1 hframe
    have hflag : (FrameType.ofHeader j.mhdr == .rejoinRequest) = j.rejoin := by
      rw [Bool.eq_iff_iff, FrameType.ofHeader_eq_rejoinRequest_iff, hrejoin]
    refine ⟨hlen, j.joinEui, ⟨_, he, rfl⟩, hadmits, j.mhdr, hmhdr, j.devEui, ⟨_, hdev, rfl⟩,
      j.devNonce, hnonce, j.mic, ?_, by rw [hflag]⟩
    rwa [hlen]

theorem dataMinLength_le_encode (j : JoinRequest) : Mac.dataMinLength ≤ j.encode.length := by
  rw [length_encode]
  decide

end JoinRequest

/-! ## Data frames -/

namespace DataFrame

/-- What stands between the options and the integrity code: the port with its payload, or
    nothing. -/
def body (d : DataFrame) : Bytes :=
  d.fport.elim [] (· :: d.payload)

/-- The port and the payload of a body are its first byte and what comes after it. -/
theorem body_eq_iff {d : DataFrame} {bs : Bytes} : bs = d.body ∧ (d.fport = none → d.payload = []) ↔
    bs.head? = d.fport ∧ bs.tail = d.payload := by
  obtain ⟨_, _, _, _, _, _, fport, payload, _⟩ := d
  cases fport <;> cases bs <;> simp [body, eq_comm]

/-- The fields of a data frame follow each other: the options end where FCtrl says, and the body
    where four bytes are left. -/
theorem eq_encode_iff {frame : Bytes} {d : DataFrame} : frame = d.encode ↔
    frame.length = Mac.optionsOffset + d.fopts.length + d.body.length + Mac.micLength ∧
      Holds frame 0 [d.mhdr] ∧ Holds frame 1 (leBytes 4 d.devAddr.value.toNat) ∧
      Holds frame 5 [d.fctrl] ∧ Holds frame 6 (leBytes 2 d.fcnt.toNat) ∧
      Holds frame Mac.optionsOffset d.fopts ∧
      Holds frame (Mac.optionsOffset + d.fopts.length) d.body ∧
      Holds frame (Mac.optionsOffset + d.fopts.length + d.body.length)
        (leBytes 4 d.mic.toUInt32.toNat) := by
  have hencode : d.encode = [d.mhdr] ++ (leBytes 4 d.devAddr.value.toNat ++ ([d.fctrl] ++
      (leBytes 2 d.fcnt.toNat ++ (d.fopts ++ (d.body ++ leBytes 4 d.mic.toUInt32.toNat))))) := by
    simp [encode, body]
  have hlength : d.encode.length =
      Mac.optionsOffset + d.fopts.length + d.body.length + Mac.micLength := by
    rw [hencode]
    simp [Mac.optionsOffset, Mac.micLength]
    omega
  rw [← Bytes.holds_zero_iff, hlength, hencode, and_comm, eq_comm (b := frame.length)]
  simp only [Bytes.holds_append_iff, Bytes.length_leBytes, List.length_singleton, Nat.reduceAdd,
    Mac.optionsOffset]

theorem decode_eq_ok_iff {frame : Bytes} {filter : NetIdFilter} {d : DataFrame} :
    decode frame filter = .ok d ↔ frame = d.encode ∧ filter.admits d.devAddr = true ∧
      (d.uplink = true ↔ d.mhdr >>> 5 = 0b010 ∨ d.mhdr >>> 5 = 0b100) ∧
      d.fopts.length = (d.fctrl &&& 0x0F).toNat ∧ (d.fport = none → d.payload = []) := by
  simp only [decode, Malformed.orDiscard, Result.bind_eq_ok_iff, Result.map_eq_ok_iff,
    Result.mapError_eq_ok_iff, Result.pure_eq_ok_iff, Result.ite_throw_eq_ok_iff,
    Result.ite_else_throw_eq_ok_iff, Wire.byte_eq_ok_iff, Wire.le32_eq_ok_iff,
    Wire.le16_eq_ok_iff, Wire.leSigned32_eq_ok_iff, Wire.slice_eq_ok_iff, Nat.not_lt]
  constructor
  · rintro ⟨fctrl, hfctrl, hroom, _, ⟨addr, haddr, rfl⟩, hadmits, mhdr, hmhdr, fcnt, hfcnt,
      fopts, ⟨hfoptsLength, hfopts⟩, bs, ⟨hbsLength, hbs⟩, mic, hmic, hd⟩
    have hport : bs.head? = d.fport := by rw [← hd]
    have hrest : bs.tail = d.payload := by rw [← hd]
    obtain ⟨hbody, hpayload⟩ := body_eq_iff.2 ⟨hport, hrest⟩
    -- The integrity code was read from the end of the frame, and the body up to it: counted from
    -- the start, they come right behind the options and the body.
    have hmicOffset : frame.length - Mac.micLength =
        Mac.optionsOffset + fopts.length + bs.length := by
      omega
    rw [hmicOffset, hbody] at hmic
    rw [← hfoptsLength, hbody] at hbs
    have hlen : frame.length =
        Mac.optionsOffset + fopts.length + d.body.length + Mac.micLength := by
      rw [← hbody]
      omega
    subst hd
    refine ⟨eq_encode_iff.2 ⟨hlen, hmhdr, haddr, hfctrl, hfcnt, hfopts, hbs, hmic⟩, hadmits,
      FrameType.isUplink_ofHeader_iff mhdr, ?_, hpayload⟩
    rw [hfoptsLength, FrameType.optionsLength_eq]
  · rintro ⟨hframe, hadmits, huplink, hoptions, hpayload⟩
    obtain ⟨hlen, hmhdr, haddr, hfctrl, hfcnt, hfopts, hbody, hmic⟩ := eq_encode_iff.1 hframe
    have hflag : (FrameType.ofHeader d.mhdr).isUplink = d.uplink := by
      rw [Bool.eq_iff_iff, FrameType.isUplink_ofHeader_iff, huplink]
    have hmicOffset : frame.length - Mac.micLength =
        Mac.optionsOffset + d.fopts.length + d.body.length := by
      omega
    obtain ⟨hport, hrest⟩ := body_eq_iff.1 ⟨rfl, hpayload⟩
    rw [← FrameType.optionsLength_eq] at hoptions
    rw [hoptions] at hbody
    refine ⟨d.fctrl, hfctrl, by omega, d.devAddr, ⟨_, haddr, rfl⟩, hadmits, d.mhdr, hmhdr, d.fcnt,
      hfcnt, d.fopts, ⟨hoptions, hfopts⟩, d.body, ⟨by omega, hbody⟩, d.mic, ?_, ?_⟩
    · rwa [hmicOffset]
    · rw [hflag, hport, hrest]

/-- The shortest data frame has neither options nor a body. -/
theorem dataMinLength_le_encode (d : DataFrame) : Mac.dataMinLength ≤ d.encode.length := by
  rw [(eq_encode_iff.1 rfl).1]
  simp only [Mac.dataMinLength, Mac.optionsOffset, Mac.micLength]
  omega

end DataFrame

/-! ## All frames -/

namespace Uplink

/-- What the decoders of MAC frames ask of a frame is asked of its header alone. -/
theorem isMac_and_isJoin_iff {frame rest : Bytes} {mhdr : UInt8} (join : Bool)
    (hframe : frame = mhdr :: rest) (hlen : Mac.dataMinLength ≤ frame.length) :
    IsMac frame ∧ (∃ b bs, frame = b :: bs ∧ (FrameType.ofHeader b).isJoin = join) ↔
      mhdr &&& 0x1F = 0 ∧ (FrameType.ofHeader mhdr).isJoin = join := by
  subst hframe
  have hroom : Mac.dataMinLength ≤ (mhdr :: rest).length ∨
      FrameType.ofHeader mhdr = .proprietary := .inl hlen
  rw [isMac_iff, and_iff_left hroom]
  refine and_congr_right fun _ => ⟨?_, fun h => ⟨mhdr, rest, rfl, h⟩⟩
  rintro ⟨_, _, ⟨⟩, h⟩
  exact h

/-- A frame decodes to a join request or a data frame if and only if it is the bytes of that message
    and the message is well-formed and admitted: nothing of the frame is lost or made up, and no
    well-formed message is refused. -/
theorem decode_eq_mac_iff (frame : Bytes) (filters : Filters) :
    (∀ j, decode frame filters = .ok (.join j) ↔
      frame = j.encode ∧ j.WellFormed ∧ filters.joinEui.admits j.joinEui = true) ∧
    (∀ d, decode frame filters = .ok (.data d) ↔
      frame = d.encode ∧ d.WellFormed ∧ filters.netId.admits d.devAddr = true) := by
  refine ⟨fun j => ?_, fun d => ?_⟩
  · rw [decode_eq_ok_iff, Origin, JoinRequest.decode_eq_ok_iff, ← and_assoc]
    -- A frame that is the bytes of a request is long enough to be told by its header.
    have header (hframe : frame = j.encode) :=
      isMac_and_isJoin_iff true hframe (hframe ▸ j.dataMinLength_le_encode)
    constructor
    · rintro ⟨horigin, hframe, hadmits, hrejoin⟩
      have hheader := (FrameType.reserved_and_isJoin_iff _).1 ((header hframe).1 horigin)
      exact ⟨hframe, ⟨hheader, hrejoin⟩, hadmits⟩
    · rintro ⟨hframe, hj, hadmits⟩
      have horigin := (header hframe).2 ((FrameType.reserved_and_isJoin_iff _).2 hj.header)
      exact ⟨horigin, hframe, hadmits, hj.rejoin⟩
  · rw [decode_eq_ok_iff, Origin, DataFrame.decode_eq_ok_iff, ← and_assoc]
    have header (hframe : frame = d.encode) :=
      isMac_and_isJoin_iff false hframe (hframe ▸ d.dataMinLength_le_encode)
    constructor
    · rintro ⟨horigin, hframe, hadmits, huplink, hoptions, hpayload⟩
      obtain ⟨hreserved, hjoin⟩ := (header hframe).1 horigin
      have htype := (FrameType.isJoin_ofHeader_eq_false_iff _).1 hjoin
      exact ⟨hframe, ⟨hreserved, htype, huplink, hoptions, hpayload⟩, hadmits⟩
    · rintro ⟨hframe, hd, hadmits⟩
      have hjoin := (FrameType.isJoin_ofHeader_eq_false_iff _).2 hd.type
      exact ⟨(header hframe).2 ⟨hd.reserved, hjoin⟩, hframe, hadmits, hd.uplink, hd.options,
        hd.payload⟩

end Uplink

end LoraGateway
