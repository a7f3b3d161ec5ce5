import LoraGateway.Proofs.Field
import LoraGateway.Proofs.IdentifierFilter
import LoraGateway.Proofs.Uplink

/-!
# Filters only ever drop

A frame is read in full before it can be dropped for its identifier: whether it is malformed, and
how, does not depend on the filters, and neither does the message that it decodes to. All that is
left to the filters is their verdict on that message (`Filters.screen`).

* `JoinRequest.decode_cases`, `DataFrame.decode_cases`, `Uplink.decode_cases`: a frame is malformed
  under every filter, or there is one message that each filter either admits or drops;
* `Uplink.decode_eq_screened`: decoding under filters, told by decoding without any.
-/

namespace LoraGateway

/-- What filters leave of a decoded frame: each kind of MAC frame is subject to one of them, and
    what is not a MAC frame to none. -/
def Filters.screen (filters : Filters) : Uplink → Except Discard Uplink
  | .join j =>
    if filters.joinEui.admits j.joinEui then .ok (.join j)
    else .error (.filtered (.joinEui j.joinEui))
  | .data d =>
    if filters.netId.admits d.devAddr then .ok (.data d)
    else .error (.filtered (.netId d.devAddr d.devAddr.netId))
  | .raw payload => .ok (.raw payload)
  | .telemetry report => .ok (.telemetry report)

/-- Without filters, no frame is dropped. -/
theorem Filters.screen_default (u : Uplink) : ({} : Filters).screen u = .ok u := by
  cases u with
  | join j => rfl
  | data d => exact if_pos (NetIdFilter.admits_all d.devAddr)
  | raw payload => rfl
  | telemetry report => rfl

/-! ## Join requests -/

section JoinRequest

variable {frame : Bytes}

theorem JoinRequest.decode_of_length_ne (hlen : frame.length ≠ Mac.joinLength)
    (filter : JoinEuiFilter) :
    decode frame filter = .error (.malformed (.joinLength frame.length)) :=
  if_pos hlen

/-- Behind the check of its length, nothing of a join request can be missing. -/
theorem JoinRequest.exists_decode_eq (hlen : frame.length = Mac.joinLength) :
    ∃ j, ∀ filter, decode frame filter =
      if filter.admits j.joinEui then .ok j else .error (.filtered (.joinEui j.joinEui)) := by
  have hroom : frame.length = 23 := hlen
  obtain ⟨e, he⟩ := Wire.exists_le64_eq_ok frame 1 (by omega)
  obtain ⟨mhdr, hmhdr⟩ := Wire.exists_byte_eq_ok frame 0 (by omega)
  obtain ⟨dev, hdev⟩ := Wire.exists_le64_eq_ok frame 9 (by omega)
  obtain ⟨nonce, hnonce⟩ := Wire.exists_le16_eq_ok frame 17 (by omega)
  obtain ⟨mic, hmic⟩ := Wire.exists_leSigned32_eq_ok frame (frame.length - Mac.micLength)
    (by simp only [Mac.micLength]; omega)
  refine ⟨⟨FrameType.ofHeader mhdr == .rejoinRequest, mhdr, ⟨e⟩, ⟨dev⟩, nonce, mic⟩,
    fun filter => ?_⟩
  rw [decode, if_neg (not_not.2 hlen), he, hmhdr, hdev, hnonce, hmic]
  rfl

theorem JoinRequest.decode_cases (frame : Bytes) :
    (∃ fault, ∀ filter, decode frame filter = .error (.malformed fault)) ∨
    ∃ j, ∀ filter, decode frame filter =
      if filter.admits j.joinEui then .ok j else .error (.filtered (.joinEui j.joinEui)) := by
  by_cases hlen : frame.length = Mac.joinLength
  · exact .inr (exists_decode_eq hlen)
  · exact .inl ⟨_, decode_of_length_ne hlen⟩

end JoinRequest

/-! ## Data frames -/

section DataFrame

variable {frame : Bytes} {fctrl : UInt8}

/-- A frame that ends in front of FCtrl is refused for this field. -/
theorem DataFrame.decode_of_length_lt (hlen : frame.length < 6) (filter : NetIdFilter) :
    decode frame filter = .error (.malformed (.outOfBounds 5 1 frame.length)) := by
  rw [decode, Wire.byte_eq_error_iff.2 ⟨hlen, rfl⟩]
  rfl

theorem DataFrame.decode_of_no_room (hfctrl : Wire.byte frame 5 = .ok fctrl)
    (hroom : frame.length < Mac.optionsOffset + fctrl.toNat % 16 + Mac.micLength)
    (filter : NetIdFilter) : decode frame filter =
      .error (.malformed (.noRoomForMic (Mac.optionsOffset + fctrl.toNat % 16) frame.length)) := by
  rw [decode, hfctrl]
  exact if_pos hroom

/-- Behind the check for room up to the integrity code, nothing of a data frame can be missing. -/
theorem DataFrame.exists_decode_eq (hfctrl : Wire.byte frame 5 = .ok fctrl)
    (hroom : Mac.optionsOffset + fctrl.toNat % 16 + Mac.micLength ≤ frame.length) :
    ∃ d, ∀ filter, decode frame filter =
      if filter.admits d.devAddr then .ok d
      else .error (.filtered (.netId d.devAddr d.devAddr.netId)) := by
  have hguard := Nat.not_lt.2 hroom
  simp only [Mac.optionsOffset, Mac.micLength] at hroom
  obtain ⟨addr, haddr⟩ := Wire.exists_le32_eq_ok frame 1 (by omega)
  obtain ⟨mhdr, hmhdr⟩ := Wire.exists_byte_eq_ok frame 0 (by omega)
  obtain ⟨fcnt, hfcnt⟩ := Wire.exists_le16_eq_ok frame 6 (by omega)
  obtain ⟨fopts, hfopts⟩ := Wire.exists_slice_eq_ok frame Mac.optionsOffset (fctrl.toNat % 16)
    (by simp only [Mac.optionsOffset]; omega)
  obtain ⟨body, hbody⟩ := Wire.exists_slice_eq_ok frame (Mac.optionsOffset + fctrl.toNat % 16)
    (frame.length - Mac.micLength - (Mac.optionsOffset + fctrl.toNat % 16))
    (by simp only [Mac.optionsOffset, Mac.micLength]; omega)
  obtain ⟨mic, hmic⟩ := Wire.exists_leSigned32_eq_ok frame (frame.length - Mac.micLength)
    (by simp only [Mac.micLength]; omega)
  refine ⟨⟨(FrameType.ofHeader mhdr).isUplink, mhdr, ⟨addr⟩, fctrl, fcnt, fopts, body.head?,
    body.tail, mic⟩, fun filter => ?_⟩
  rw [decode, hfctrl]
  refine (if_neg hguard).trans ?_
  rw [haddr, hmhdr, hfcnt, hfopts, hbody, hmic]
  rfl

theorem DataFrame.decode_cases (frame : Bytes) :
    (∃ fault, ∀ filter, decode frame filter = .error (.malformed fault)) ∨
    ∃ d, ∀ filter, decode frame filter =
      if filter.admits d.devAddr then .ok d
      else .error (.filtered (.netId d.devAddr d.devAddr.netId)) := by
  by_cases hlen : frame.length < 6
  · exact .inl ⟨_, decode_of_length_lt hlen⟩
  · obtain ⟨fctrl, hfctrl⟩ := Wire.exists_byte_eq_ok frame 5 (Nat.le_of_not_lt hlen)
    by_cases hroom : frame.length < Mac.optionsOffset + fctrl.toNat % 16 + Mac.micLength
    · exact .inl ⟨_, decode_of_no_room hfctrl hroom⟩
    · exact .inr (exists_decode_eq hfctrl (Nat.le_of_not_lt hroom))

end DataFrame

/-! ## All frames -/

namespace Uplink

variable {frame : Bytes} {filters : Filters}

/-- A frame is malformed whatever the filters are, or all of them judge the same message. -/
theorem decode_cases (frame : Bytes) :
    (∃ fault, ∀ filters, decode frame filters = .error (.malformed fault)) ∨
    ∃ u, ∀ filters : Filters, decode frame filters = filters.screen u := by
  cases frame with
  | nil => exact .inl ⟨.empty, fun _ => rfl⟩
  | cons mhdr rest =>
    simp only [decode_cons]
    split_ifs with hmarked hforeign hjoin
    · cases Telemetry.decode (mhdr :: rest) with
      | error fault => exact .inl ⟨fault, fun _ => rfl⟩
      | ok report => exact .inr ⟨.telemetry report, fun _ => rfl⟩
    · exact .inr ⟨.raw (mhdr :: rest), fun _ => rfl⟩
    · rcases JoinRequest.decode_cases (mhdr :: rest) with ⟨fault, h⟩ | ⟨j, h⟩
      · exact .inl ⟨fault, fun filters => by rw [h]; rfl⟩
      · exact .inr ⟨.join j, fun filters => by rw [h, Filters.screen]; split_ifs <;> rfl⟩
    · rcases DataFrame.decode_cases (mhdr :: rest) with ⟨fault, h⟩ | ⟨d, h⟩
      · exact .inl ⟨fault, fun filters => by rw [h]; rfl⟩
      · exact .inr ⟨.data d, fun filters => by rw [h, Filters.screen]; split_ifs <;> rfl⟩

/-- Filters change nothing but what they drop, and each of them drops only frames of its own kind:
    join requests to a server outside all ranges, and data frames of a network whose bit is not
    set. What is malformed is so in the same way under all filters. -/
theorem decode_eq_screened (frame : Bytes) (filters : Filters) :
    (match decode frame {} with
      | .error (.filtered _) => False
      | .error (.malformed fault) => decode frame filters = .error (.malformed fault)
      | .ok (.raw payload) => decode frame filters = .ok (.raw payload)
      | .ok (.telemetry report) => decode frame filters = .ok (.telemetry report)
      | .ok (.join j) => decode frame filters =
        if filters.joinEui.ranges = [] ∨ ∃ r ∈ filters.joinEui.ranges,
            r.1.value ≤ j.joinEui.value ∧ j.joinEui.value ≤ r.2.value then
          .ok (.join j)
        else .error (.filtered (.joinEui j.joinEui))
      | .ok (.data d) =>
        let n := d.devAddr.value.toNat / 2 ^ 25
        decode frame filters =
          if filters.netId.bit n then .ok (.data d)
          else .error (.filtered (.netId d.devAddr (UInt8.ofNat n)))) ∧
    ∀ fault, decode frame filters = .error (.malformed fault) ↔
      decode frame {} = .error (.malformed fault) := by
  rcases decode_cases frame with ⟨fault, h⟩ | ⟨u, h⟩
  · rw [h, h]
    exact ⟨rfl, fun _ => Iff.rfl⟩
  · rw [h, h, Filters.screen_default]
    cases u with
    | raw payload => exact ⟨rfl, fun _ => Iff.rfl⟩
    | telemetry report => exact ⟨rfl, fun _ => Iff.rfl⟩
    | join j =>
      simp only [Filters.screen, JoinEuiFilter.admits_iff]
      refine ⟨trivial, fun fault => ?_⟩
      split_ifs <;> simp
    | data d =>
      simp only [Filters.screen, NetIdFilter.admits_eq_bit, ← DevAddr.toNat_netId,
        UInt8.ofNat_toNat]
      refine ⟨trivial, fun fault => ?_⟩
      split_ifs <;> simp

end Uplink

end LoraGateway
