import Mathlib.Tactic.SplitIfs
import LoraGateway.Proofs.Result
import LoraGateway.Uplink

/-!
# What a frame is decoded as

The classes of frames are asked for in a fixed order. `Uplink.Origin` says of a decoded frame which
class it must have come from: the decoder of its kind found it, and no class that is asked for
earlier took the frame away. Decoding succeeds exactly with what has its origin in the frame
(`Uplink.decode_eq_ok_iff`).
-/

namespace LoraGateway

theorem Telemetry.isMarked_iff {frame : Bytes} : isMarked frame = true ↔
    itemsOffset ≤ frame.length ∧ frame[0]? = some 0x01 ∧ frame[9]? = some 0x41 := by
  simp only [isMarked, Bool.and_eq_true, decide_eq_true_eq, beq_iff_eq, and_assoc]

namespace Uplink

/-- True of the frames that reach the decoders of MAC frames. -/
def IsMac (frame : Bytes) : Prop :=
  Telemetry.isMarked frame = false ∧ Mac.isForeign frame = false

/-- Where a decoded frame comes from. -/
def Origin (frame : Bytes) (filters : Filters) : Uplink → Prop
  | .telemetry report => Telemetry.isMarked frame = true ∧ Telemetry.decode frame = .ok report
  | .raw payload => frame ≠ [] ∧ Telemetry.isMarked frame = false ∧ Mac.isForeign frame = true ∧
    frame = payload
  | .join request => IsMac frame ∧ (∃ mhdr rest, frame = mhdr :: rest ∧
      (FrameType.ofHeader mhdr).isJoin = true) ∧
    JoinRequest.decode frame filters.joinEui = .ok request
  | .data message => IsMac frame ∧ (∃ mhdr rest, frame = mhdr :: rest ∧
      (FrameType.ofHeader mhdr).isJoin = false) ∧
    DataFrame.decode frame filters.netId = .ok message

variable {frame : Bytes} {filters : Filters}

/-- A frame that is not empty: one branch for each class. -/
theorem decode_cons (mhdr : UInt8) (rest : Bytes) : decode (mhdr :: rest) filters =
    if Telemetry.isMarked (mhdr :: rest) then
      ((Telemetry.decode (mhdr :: rest)).map .telemetry).mapError .malformed
    else if Mac.isForeign (mhdr :: rest) then .ok (.raw (mhdr :: rest))
    else if (FrameType.ofHeader mhdr).isJoin then
      (JoinRequest.decode (mhdr :: rest) filters.joinEui).map .join
    else (DataFrame.decode (mhdr :: rest) filters.netId).map .data :=
  rfl

theorem decode_eq_ok_iff {u : Uplink} : decode frame filters = .ok u ↔ Origin frame filters u := by
  cases frame with
  | nil =>
    -- The empty frame is refused before any class is asked for, and has no origin: it is too short
    -- to be a MAC frame and holds no marker.
    refine ⟨fun h => absurd h Result.throw_ne_ok, fun h => ?_⟩
    cases u with
    | telemetry t => exact absurd h.1 (by decide)
    | raw p => exact absurd rfl h.1
    | join j => exact absurd h.1.2 (by decide)
    | data d => exact absurd h.1.2 (by decide)
  | cons mhdr rest =>
    rw [decode_cons]
    split_ifs with hmarked hforeign hjoin
    · cases u <;> simp [Origin, IsMac, hmarked, Result.map_eq_ok_iff, Result.mapError_eq_ok_iff]
    · cases u <;> simp [Origin, IsMac, hmarked, hforeign]
    · cases u <;> simp [Origin, IsMac, hmarked, hforeign, hjoin, Result.map_eq_ok_iff]
    · cases u <;> simp [Origin, IsMac, hmarked, hforeign, hjoin, Result.map_eq_ok_iff]

theorem isForeign_eq_false_iff {mhdr : UInt8} {rest : Bytes} :
    Mac.isForeign (mhdr :: rest) = false ↔ mhdr &&& 0x1F = 0 ∧
      (Mac.dataMinLength ≤ (mhdr :: rest).length ∨ FrameType.ofHeader mhdr = .proprietary) := by
  rw [Mac.isForeign, Bool.or_eq_false_iff, Bool.and_eq_false_iff, bne_eq_false_iff_eq,
    bne_eq_false_iff_eq, decide_eq_false_iff_not, Nat.not_lt, and_comm]

/-- A frame is a MAC frame if and only if the reserved and version bits of its header are zero,
    which also rules out the marker of telemetry, and it is not too short, unless it is
    proprietary. -/
theorem isMac_iff {mhdr : UInt8} {rest : Bytes} : IsMac (mhdr :: rest) ↔
    mhdr &&& 0x1F = 0 ∧ (Mac.dataMinLength ≤ (mhdr :: rest).length ∨
      FrameType.ofHeader mhdr = .proprietary) := by
  rw [IsMac, isForeign_eq_false_iff]
  refine and_iff_right_of_imp fun ⟨hreserved, _⟩ => ?_
  have hmarker : mhdr ≠ 0x01 := by
    rintro rfl
    exact absurd hreserved (by decide)
  simp [Telemetry.isMarked, hmarker]

theorem decode_of_isMac {mhdr : UInt8} {rest : Bytes} (h : IsMac (mhdr :: rest)) :
    decode (mhdr :: rest) filters =
      if (FrameType.ofHeader mhdr).isJoin then
        (JoinRequest.decode (mhdr :: rest) filters.joinEui).map .join
      else (DataFrame.decode (mhdr :: rest) filters.netId).map .data := by
  rw [decode_cons, h.1, h.2]
  rfl

end Uplink

end LoraGateway
