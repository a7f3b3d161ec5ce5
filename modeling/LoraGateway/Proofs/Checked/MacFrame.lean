import LoraGateway.Proofs.Checked.Access
import LoraGateway.Proofs.Screening

/-!
# MAC frames with checked access

The decoders of join requests and data frames with every access checked. Each access stays inside
its bounds for another reason: what the check of the length left room for (`agrees_joinRequest`), or
that the integrity code does not start before the port (`micOffset?_eq`,
`portAndPayload?_eq_some`).
-/

namespace LoraGateway.Checked

/-- Raises a fault as the reason of a discard. -/
def orDiscard {α : Type} (x : Run Malformed α) : Run Discard α :=
  x.adapt .malformed

/-- The integrity code in the last four bytes. -/
def trailingMic (frame : Bytes) : Run Malformed Int32 :=
  match sub? frame.length Mac.micLength with
  | some offset => leSigned32 frame offset
  | none => throw (.outOfBounds 0 Mac.micLength frame.length)

/-- True if the network of a device address is in the set. -/
def admits? (filter : NetIdFilter) (a : DevAddr) : Option Bool := do
  let word ← index? filter.words.toList (a.netId.toNat % 128 / 32)
  some (word &&& NetIdFilter.bitOf a.netId != 0)

/-- Reads a join request, if its join server is admitted. -/
def joinRequest (frame : Bytes) (filter : JoinEuiFilter) : Run Discard JoinRequest := do
  if frame.length ≠ Mac.joinLength then
    throw (.malformed (.joinLength frame.length))
  let joinEui ← orDiscard (Eui.mk <$> le64 frame 1)
  unless filter.admits joinEui do
    throw (.filtered (.joinEui joinEui))
  orDiscard do
    let mhdr ← byte frame 0
    let devEui ← Eui.mk <$> le64 frame 9
    let devNonce ← le16 frame 17
    let mic ← trailingMic frame
    pure {
      rejoin := FrameType.ofHeader mhdr == .rejoinRequest
      mhdr, joinEui, devEui, devNonce, mic
    }

/-- Where the integrity code starts, if that is not before the port. -/
def micOffset? (length portOffset : Nat) : Option Nat :=
  (sub? length Mac.micLength).filter (portOffset ≤ ·)

/-- The port, if there is room for one, and the payload behind it. -/
def portAndPayload? (frame : Bytes) (portOffset micOffset : Nat) : Option (Option UInt8 × Bytes) :=
  if portOffset = micOffset then do
    let payload ← slice? frame micOffset micOffset
    some (none, payload)
  else do
    let port ← index? frame portOffset
    let start ← add? portOffset 1
    let payload ← slice? frame start micOffset
    some (some port, payload)

/-- Reads a data frame, if the network of its device is admitted. -/
def dataFrame (frame : Bytes) (filter : NetIdFilter) : Run Discard DataFrame := do
  let fctrl ← orDiscard (byte frame 5)
  let optionsLength := fctrl.toNat % 16
  let portOffset ← access (add? Mac.optionsOffset optionsLength)
  match micOffset? frame.length portOffset with
  | none => throw (.malformed (.noRoomForMic portOffset frame.length))
  | some micOffset =>
    let devAddr ← orDiscard (DevAddr.mk <$> le32 frame 1)
    let admitted ← access (admits? filter devAddr)
    unless admitted do
      throw (.filtered (.netId devAddr devAddr.netId))
    orDiscard do
      let mhdr ← byte frame 0
      let (fport, payload) ← access (portAndPayload? frame portOffset micOffset)
      let fcnt ← le16 frame 6
      let fopts ← ofExcept (bytesAt frame Mac.optionsOffset optionsLength)
      let mic ← leSigned32 frame micOffset
      pure {
        uplink := (FrameType.ofHeader mhdr).isUplink
        mhdr, devAddr, fctrl, fcnt, fopts, fport, payload, mic
      }

theorem admits?_eq_some (filter : NetIdFilter) (a : DevAddr) :
    admits? filter a = some (filter.admits a) := by
  have hword : index? filter.words.toList (a.netId.toNat % 128 / 32) =
      some filter.words[NetIdFilter.wordOf a.netId] := by
    rw [index?, Vector.getElem?_toList]
    exact Vector.getElem?_eq_getElem (NetIdFilter.wordOf a.netId).isLt
  rw [admits?, hword]
  rfl

theorem micOffset?_eq (length portOffset : Nat) : micOffset? length portOffset =
    if length < portOffset + Mac.micLength then none else some (length - Mac.micLength) := by
  rw [micOffset?, sub?]
  split_ifs with hmic hroom hroom
  · exact Option.filter_some_neg (by simp; omega)
  · exact Option.filter_some_pos (by simp; omega)
  · rfl
  · omega

section

variable {frame : Bytes} (hframe : frame.length < 2 ^ 64)

include hframe

theorem agrees_trailingMic (h : Mac.micLength ≤ frame.length) :
    Agrees (trailingMic frame) (Wire.leSigned32 frame (frame.length - Mac.micLength)) := by
  rw [trailingMic, sub?_eq_some h]
  exact agrees_leSigned32 hframe _

theorem agrees_joinRequest (filter : JoinEuiFilter) :
    Agrees (joinRequest frame filter) (JoinRequest.decode frame filter) := by
  rw [joinRequest, JoinRequest.decode]
  by_cases hlength : frame.length = Mac.joinLength
  · rw [if_neg (not_not.2 hlength), if_neg (not_not.2 hlength)]
    refine (((agrees_le64 hframe 1).map Eui.mk).mapError Discard.malformed).bind fun e _ => ?_
    cases filter.admits e with
    | false => exact agrees_throw _
    | true =>
      refine Agrees.mapError ?_ Discard.malformed
      refine (agrees_byte hframe 0).bind fun mhdr _ => ?_
      refine ((agrees_le64 hframe 9).map Eui.mk).bind fun devEui _ => ?_
      refine (agrees_le16 hframe 17).bind fun devNonce _ => ?_
      refine (agrees_trailingMic hframe (by rw [hlength]; decide)).bind fun mic _ => ?_
      exact agrees_pure _
  · rw [if_pos hlength, if_pos hlength]
    exact agrees_throw _

omit hframe in
theorem range_eq_cons {start stop : Nat} (hstart : start < stop) (hstop : stop ≤ frame.length) :
    frame.range start stop = frame[start] :: frame.range (start + 1) stop := by
  have htake : start < (frame.take stop).length := by rw [List.length_take]; omega
  rw [Bytes.range, List.drop_eq_getElem_cons htake, List.getElem_take]
  rfl

omit hframe in
theorem slice_eq_range {start stop : Nat} (hstart : start ≤ stop) (hstop : stop ≤ frame.length) :
    Wire.slice frame start (stop - start) = .ok (frame.range start stop) := by
  rw [Wire.slice_eq_ok (by omega), Bytes.range, List.drop_take]

theorem portAndPayload?_eq_some {portOffset micOffset : Nat} (hport : portOffset ≤ micOffset)
    (hmic : micOffset ≤ frame.length) : portAndPayload? frame portOffset micOffset =
      some ((frame.range portOffset micOffset).head?, (frame.range portOffset micOffset).tail) := by
  rw [portAndPayload?]
  split
  case isTrue heq =>
    have hempty : frame.range micOffset micOffset = [] := by
      rw [Bytes.range, List.drop_eq_nil_iff]
      exact List.length_take_le ..
    rw [heq, slice?_eq_some (Nat.le_refl _) hmic, hempty]
    rfl
  case isFalse hne =>
    have hlt : portOffset < micOffset := Nat.lt_of_le_of_ne hport hne
    have hindex : index? frame portOffset = some frame[portOffset] :=
      List.getElem?_eq_getElem (by omega)
    rw [hindex, add?_eq_some (by omega), range_eq_cons hlt hmic]
    simp only [Option.bind_eq_bind, Option.bind_some, slice?_eq_some hlt hmic]
    rfl

theorem agrees_dataFrame (filter : NetIdFilter) :
    Agrees (dataFrame frame filter) (DataFrame.decode frame filter) := by
  rw [dataFrame, DataFrame.decode]
  refine ((agrees_byte hframe 5).mapError Discard.malformed).bind fun fctrl _ => ?_
  -- The options are at most 15 bytes long, whatever the frame says.
  have hoptions : fctrl.toNat % 16 < 16 := Nat.mod_lt _ (by decide)
  refine Agrees.behind (add?_eq_some (by rw [Mac.optionsOffset]; omega)) ?_
  rw [micOffset?_eq]
  by_cases hroom : frame.length < Mac.optionsOffset + fctrl.toNat % 16 + Mac.micLength
  · rw [if_pos hroom]
    simp only [hroom, if_true]
    exact agrees_throw _
  · rw [if_neg hroom]
    simp only [hroom, if_false]
    refine (((agrees_le32 hframe 1).map DevAddr.mk).mapError Discard.malformed).bind fun a _ => ?_
    refine Agrees.behind (admits?_eq_some filter a) ?_
    cases filter.admits a with
    | false => exact agrees_throw _
    | true =>
      refine Agrees.mapError ?_ Discard.malformed
      refine (agrees_byte hframe 0).bind fun mhdr _ => ?_
      -- This is all that was checked: the port and the payload have no check of their own.
      have hport : Mac.optionsOffset + fctrl.toNat % 16 ≤ frame.length - Mac.micLength := by omega
      refine Agrees.behind (portAndPayload?_eq_some hframe hport (Nat.sub_le _ _)) ?_
      refine (agrees_le16 hframe 6).bind fun fcnt _ => ?_
      rw [bytesAt_eq_slice hframe]
      refine (agrees_ofExcept _).bind fun fopts _ => ?_
      rw [slice_eq_range hport (Nat.sub_le _ _)]
      exact (agrees_leSigned32 hframe _).bind fun mic _ => agrees_pure _

end

end LoraGateway.Checked
