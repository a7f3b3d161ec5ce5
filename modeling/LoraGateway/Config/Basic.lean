import LoraGateway.Beacon.Layout
import LoraGateway.Emission
import LoraGateway.Files.Error

/-!
# Configuration

What a gateway is configured with: its identifier filters, the choices of its messages and the
layout of its beacons. A configuration holds identifiers as they were given; whether they are any is
asked when the filters are made (`Config.filters`), identifiers of join servers first. A
configuration is usable if its filters can be made and its layout is usable (`Config.check`).
-/

namespace LoraGateway

/-- An identifier as it was given: as a number or as a text. -/
inductive EuiEntry
  | number (n : UInt64)
  | text (s : String)
  deriving DecidableEq, Repr

/-- A configuration. -/
structure Config where
  /-- The inclusive ranges of admitted join servers; none admits all. -/
  joinEuiRanges : List (EuiEntry × EuiEntry) := []
  /-- The admitted networks; nothing admits all. -/
  netIds : Option (List UInt64) := none
  options : MessageOptions := {}
  layout : Beacon.Layout := .eu868
  deriving DecidableEq, Repr, Inhabited

namespace Config

/-- Why a configuration cannot be used. -/
inductive Error
  /-- Its file could not be read. -/
  | file (e : FileError)
  /-- It is no JSON text, or not one of a configuration. -/
  | json
  /-- A text that is no identifier. -/
  | invalidEui (s : String)
  /-- A number that is no network. -/
  | invalidNetId (n : UInt64)
  /-- A beacon layout that is not usable. -/
  | layout (fault : Beacon.LayoutFault)
  deriving DecidableEq, Repr

/-- The wording of an error. -/
def Error.message : Error → String
  | .file e => "IO error: " ++ e.message
  | .json => "JSON error"
  | .invalidEui s => "invalid EUI: " ++ s
  | .invalidNetId n => s!"NetID out of range: {n.toNat}"
  | .layout fault => fault.message

end Config

/-- The identifier that an entry gives. -/
def EuiEntry.eui : EuiEntry → Except Config.Error Eui
  | .number n => pure ⟨n⟩
  | .text s =>
    match Eui.ofText? s with
    | some e => pure e
    | none => throw (.invalidEui s)

namespace Config

/-- The range that two entries give; the lower one is looked at first. -/
def range (r : EuiEntry × EuiEntry) : Except Error (Eui × Eui) := do
  let lo ← r.1.eui
  let hi ← r.2.eui
  pure (lo, hi)

/-- The network that a number gives. -/
def netId (n : UInt64) : Except Error UInt8 :=
  if n.toNat < NetIdFilter.count then pure n.toUInt8 else throw (.invalidNetId n)

/-- The filters that a configuration describes. -/
def filters (c : Config) : Except Error Filters := do
  let ranges ← c.joinEuiRanges.mapM range
  let netId ← match c.netIds with
    | none => pure .all
    | some ids => NetIdFilter.allowOnly <$> ids.mapM netId
  pure { joinEui := { ranges }, netId }

/-- Asks whether a configuration is usable. -/
def check (c : Config) : Except Error Unit := do
  let _ ← c.filters
  c.layout.check.mapError .layout

end Config

end LoraGateway
