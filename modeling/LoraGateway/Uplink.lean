import LoraGateway.Frame.Mac
import LoraGateway.Frame.Telemetry

/-!
# Received frames

Every frame from the radio is exactly one of: telemetry, a join request, a data frame, or something
foreign that is passed on as it is (`Uplink`). Which one it is, is asked in a fixed order
(`Uplink.decode`): the markers of telemetry come first, then the foreign frames are set aside, and
the frame type decides on the rest. Telemetry and foreign frames are not filtered.
-/

namespace LoraGateway

/-- What kind of message a frame yields. -/
inductive Kind
  | joinRequest
  | rejoinRequest
  | dataUp
  | dataDown
  | foreign
  | status
  | gnss
  | wifi
  | gnssWifi
  deriving DecidableEq, Repr

namespace Kind

/-- The name of a kind in a message. -/
def name : Kind → String
  | .joinRequest => "jreq"
  | .rejoinRequest => "rejoin"
  | .dataUp => "updf"
  | .dataDown => "dndf"
  | .foreign => "lora"
  | .status => "status"
  | .gnss => "gnss"
  | .wifi => "wifi"
  | .gnssWifi => "gnss_wifi"

/-- True for the kinds that MAC frames yield. -/
def isMac : Kind → Bool
  | .joinRequest | .rejoinRequest | .dataUp | .dataDown => true
  | _ => false

end Kind

namespace Record

/-- True for a satellite fix. -/
def isGnss : Record → Bool
  | .gnss .. => true
  | .wifi .. => false

end Record

/-- The kind of a telemetry message tells which records it holds. -/
def Telemetry.kind (t : Telemetry) : Kind :=
  match t.records.any Record.isGnss, t.records.any (!·.isGnss) with
  | true, true => .gnssWifi
  | true, false => .gnss
  | false, true => .wifi
  | false, false => .status

/-- A decoded frame. -/
inductive Uplink
  | join (request : JoinRequest)
  | data (frame : DataFrame)
  | raw (payload : Bytes)
  | telemetry (report : Telemetry)
  deriving DecidableEq, Repr

namespace Uplink

/-- The kind of message that a decoded frame yields. -/
def kind : Uplink → Kind
  | .join request => if request.rejoin then .rejoinRequest else .joinRequest
  | .data frame => if frame.uplink then .dataUp else .dataDown
  | .raw _ => .foreign
  | .telemetry report => report.kind

/-- Tells what a frame is and reads it. -/
def decode (frame : Bytes) (filters : Filters) : Except Discard Uplink :=
  match frame with
  | [] => throw (.malformed .empty)
  | mhdr :: _ =>
    if Telemetry.isMarked frame then
      Malformed.orDiscard ((Telemetry.decode frame).map .telemetry)
    else if Mac.isForeign frame then
      pure (.raw frame)
    else if (FrameType.ofHeader mhdr).isJoin then
      (JoinRequest.decode frame filters.joinEui).map .join
    else
      (DataFrame.decode frame filters.netId).map .data

end Uplink

end LoraGateway
