import LoraGateway.Capture
import LoraGateway.Config.Reader
import LoraGateway.Log.Event

/-!
# Decoding a capture

A session takes the items of a capture one after the other (`Session.State.run`). A frame is decoded
under the filters that were last put in force, and counted; a control message that reconfigures the
gateway puts others in force, if it describes any; every other item changes nothing. What was
written and logged is read off the steps.
-/

namespace LoraGateway

namespace Session

/-- What became of an item. -/
inductive Step
  /-- A frame, with what was decoded from it. -/
  | frame (bytes : Bytes) (result : Except Discard Uplink)
  /-- A control message of another purpose. -/
  | ignored (msg : Json)
  /-- New filters. -/
  | reconfigured (filters : Filters)
  /-- A reconfiguration that describes no filters. -/
  | rejected (e : Config.Error)

/-- True for a message that reconfigures the gateway. -/
def isRouterConfig (msg : Json) : Bool :=
  (msg.member? "msgtype").bind Json.string? == some "router_config"

/-- How many frames a session met and what became of them. -/
structure Counts where
  frames : Nat := 0
  emitted : Nat := 0
  /-- The emitted messages that came from MAC frames. -/
  mac : Nat := 0
  malformed : Nat := 0
  filtered : Nat := 0
  reconfigured : Nat := 0
  deriving DecidableEq, Repr, Inhabited

/-- Counts a frame, decoded or not. -/
def Counts.add (c : Counts) : Except Discard Uplink → Counts
  | .ok u =>
    { c with
      frames := c.frames + 1
      emitted := c.emitted + 1
      mac := if u.kind.isMac then c.mac + 1 else c.mac }
  | .error (.malformed _) => { c with frames := c.frames + 1, malformed := c.malformed + 1 }
  | .error (.filtered _) => { c with frames := c.frames + 1, filtered := c.filtered + 1 }

/-- Where a session stands between two items. -/
structure State where
  store : FilterStore
  /-- The filters that frames are decoded under, taken from the store when they were put in
      force. -/
  snapshot : Filters
  counts : Counts := {}
  deriving DecidableEq, Repr, Inhabited

namespace State

/-- Before the first item. -/
def start (filters : Filters) : State :=
  let store : FilterStore := { current := filters }
  { store, snapshot := store.snapshot }

/-- Puts filters in force, and decodes under them from now on. -/
def reconfigure (s : State) (filters : Filters) : State :=
  let store := s.store.publish filters
  { store
    snapshot := store.snapshot
    counts := { s.counts with reconfigured := s.counts.reconfigured + 1 } }

/-- Takes an item: what becomes of it, and where the session stands then. -/
def next (s : State) : Capture.Item → Step × State
  | .frame bytes =>
    let result := Uplink.decode bytes s.snapshot
    (.frame bytes result, { s with counts := s.counts.add result })
  | .control msg =>
    if !isRouterConfig msg then (.ignored msg, s)
    else
      match Config.ofRouterMessage msg with
      | .ok filters => (.reconfigured filters, s.reconfigure filters)
      | .error e => (.rejected e, s)

/-- Takes the items of a capture in their order. -/
def run (s : State) : List Capture.Item → List Step × State
  | [] => ([], s)
  | i :: rest =>
    let (step, s) := s.next i
    let (steps, s) := s.run rest
    (step :: steps, s)

end State

/-- The message of a step. -/
def Step.message? (o : MessageOptions) : Step → Option String
  | .frame _ (.ok u) => some (({} : Sinks).emit o u).message.text
  | _ => none

/-- The diagnostic lines of a step. -/
def Step.lines : Step → List String
  | .frame bytes result => diagnosticLines bytes result
  | _ => []

/-- The line that sums up a session. -/
def Counts.summary (c : Counts) : String :=
  s!"{c.frames} frames: {c.emitted} emitted ({c.mac} LoRaWAN), {c.malformed} malformed, " ++
    s!"{c.filtered} filtered"

open Log (Event)

/-- The event at the end of a session. -/
def Counts.event (c : Counts) : Event where
  level := .info
  target := "lorafwd"
  message := "decode finished"
  fields := [("frames", toString c.frames), ("emitted", toString c.emitted),
    ("router_configs", toString c.reconfigured)]

/-- The event of filters that come into force. -/
def publishedEvent (f : Filters) : Event where
  level := .info
  target := "lorafwd_core::filter"
  message := "publishing filter config"
  fields := [("join_eui_ranges", toString f.joinEui.ranges.length),
    ("netid_all", toString f.netId.allowsAll)]

/-- The event of a bad line. -/
def badLineEvent (line : Nat × String) : Event where
  level := .warn
  target := "lorafwd"
  message := "skipping unparseable line"
  fields := [("line", toString line.1), ("text", line.2)]

/-- The event of a telemetry scan that ended at a byte that is no tag. -/
def unknownTagEvent (offset : Nat) (tag : UInt8) : Event where
  level := .trace
  target := "lorafwd_core::telemetry"
  message := "unknown telemetry tag, stopping scan"
  fields := [("offset", toString offset), ("tag", toString tag.toNat)]

/-- The event of a frame, decoded or not. -/
def decodedEvent (bytes : Bytes) : Except Discard Uplink → Event
  | .ok u =>
    { level := .debug, target := "lorafwd_core::decode", message := "frame decoded"
      fields := [("len", toString bytes.length), ("kind", u.kind.name)] }
  | .error d =>
    { level := .debug, target := "lorafwd_core::decode", message := "frame discarded"
      fields := [("len", toString bytes.length), ("reason", d.message)] }

/-- The event of a diagnostic line. -/
def diagnosticEvent (line : String) : Event where
  level := .debug
  target := "lorafwd::diag"
  message := line

/-- The events of a step, but for those of its diagnostic lines. -/
def Step.events : Step → List Event
  | .frame bytes result =>
    let scanned := match result with
      | .ok (.telemetry _) => (Telemetry.unknownTag? bytes).map fun (o, t) => unknownTagEvent o t
      | _ => none
    scanned.toList ++ [decodedEvent bytes result]
  | .ignored msg =>
    [{ level := .debug, target := "lorafwd", message := "ignoring control message"
       fields := [("msg", msg.text)] }]
  | .reconfigured filters => [publishedEvent filters]
  | .rejected e =>
    [{ level := .warn, target := "lorafwd", message := "rejecting router_config"
       fields := [("error", e.message)] }]

end Session

end LoraGateway
