import LoraGateway.Discard

/-!
# Identifier filters

Which frames are forwarded is decided by who they are for: a join request by the join server it
names (`JoinEuiFilter`), a data frame by the network of its device address (`NetIdFilter`). Both
are values: changing a filter makes a new one, and whoever holds the old one keeps deciding by it.
-/

namespace LoraGateway

/-- Inclusive ranges of join servers. Without any range every join server is admitted. -/
structure JoinEuiFilter where
  /-- The lowest and the highest identifier of each range. -/
  ranges : List (Eui × Eui) := []
  deriving DecidableEq, Repr, Inhabited

namespace JoinEuiFilter

/-- True if no range is given. -/
def isDisabled (f : JoinEuiFilter) : Bool :=
  f.ranges.isEmpty

/-- True if the identifier lies in some range, or the filter is disabled. -/
def admits (f : JoinEuiFilter) (e : Eui) : Bool :=
  f.isDisabled || f.ranges.any fun (lo, hi) => lo.value ≤ e.value && e.value ≤ hi.value

end JoinEuiFilter

/-- A set of network identifiers: one bit for each of the 128, in four words, lowest identifier
    first. Identifiers are taken modulo 128. -/
structure NetIdFilter where
  /-- The words of the set. -/
  words : Vector UInt32 4
  deriving DecidableEq, Repr

namespace NetIdFilter

/-- The number of network identifiers. -/
def count : Nat := 128

/-- The filter that admits every network. -/
def all : NetIdFilter :=
  ⟨Vector.replicate 4 0xFFFFFFFF⟩

/-- The filter that admits no network. -/
def nothing : NetIdFilter :=
  ⟨Vector.replicate 4 0⟩

instance : Inhabited NetIdFilter := ⟨all⟩

/-- The word that holds the bit of an identifier. -/
def wordOf (id : UInt8) : Fin 4 :=
  ⟨id.toNat % 128 / 32, by omega⟩

/-- The bit of an identifier within its word. -/
def bitOf (id : UInt8) : UInt32 :=
  1 <<< UInt32.ofNat (id.toNat % 32)

/-- Admits an identifier or bars it. -/
def set (f : NetIdFilter) (id : UInt8) (allowed : Bool) : NetIdFilter :=
  let i := wordOf id
  let word := if allowed then f.words[i] ||| bitOf id else f.words[i] &&& ~~~bitOf id
  ⟨f.words.set i word⟩

/-- Admits the listed identifiers only. -/
def allowOnly (ids : List UInt8) : NetIdFilter :=
  ids.foldl (fun f id => f.set id true) nothing

/-- True if an identifier is in the set. -/
def allows (f : NetIdFilter) (id : UInt8) : Bool :=
  f.words[wordOf id] &&& bitOf id != 0

/-- True if the network of a device address is in the set. -/
def admits (f : NetIdFilter) (a : DevAddr) : Bool :=
  f.allows a.netId

/-- True if no network is barred. -/
def allowsAll (f : NetIdFilter) : Bool :=
  f == all

end NetIdFilter

/-- The filters that frames are decoded under. -/
structure Filters where
  joinEui : JoinEuiFilter := {}
  netId : NetIdFilter := .all
  deriving DecidableEq, Repr, Inhabited

/-- Where the filters in force are kept. -/
structure FilterStore where
  current : Filters
  deriving DecidableEq, Repr, Inhabited

namespace FilterStore

/-- The filters in force at the moment. Publishing others later does not change them. -/
def snapshot (s : FilterStore) : Filters :=
  s.current

/-- Puts other filters in force. -/
def publish (s : FilterStore) (filters : Filters) : FilterStore :=
  { s with current := filters }

end FilterStore

end LoraGateway
