import Mathlib.Data.List.Forall2
import LoraGateway.Proofs.Accumulation
import LoraGateway.Proofs.CallOrder
import LoraGateway.Proofs.Stations
import LoraGateway.Proofs.TelemetryReport

/-!
# The message of a telemetry frame

The message of a telemetry frame is an image of the items of the frame, in their order: its header,
the members of each record, those of the status values that are present, and the whole frame if it
is asked for (`Telemetry.members`).

* `Message.Writes`: what calls append to a message without an open array. It goes along with the
  calls, so that the members are put together the way the calls are;
* `Item.Shows`, `Record.shows_of_yields`: what the members of a record tell of its item;
* `Telemetry.name_kind_eq`: the kind of a message tells which names of records are in it;
* `forward_telemetry`: what is forwarded of a telemetry frame.
-/

namespace LoraGateway

open Message (Call)
open Telemetry (Item Tag beaconWidth gnssHeader wifiHeader itemsOffset)

/-! ## Calls -/

namespace Message

/-- True if calls append members to every message without an open array, and leave none open. -/
def Writes (calls : List Call) (ms : List (String × Json)) : Prop :=
  ∀ members, applyAll { members } calls = { members := members ++ ms }

variable {calls calls' : List Call} {ms ms' : List (String × Json)}

theorem writes_nil : Writes [] [] := fun members =>
  congrArg (Message.mk · none) (List.append_nil members).symm

theorem Writes.append (h : Writes calls ms) (h' : Writes calls' ms') :
    Writes (calls ++ calls') (ms ++ ms') := fun members => by
  rw [applyAll_append, h, h', List.append_assoc]

theorem writes_field (name : String) (v : FieldValue) :
    Writes [.field name v] [(name, v.json)] := fun members => by
  rw [applyAll_field_cons]
  rfl

theorem applyAll_items (members : List (String × Json)) (name : String) (items : List Json)
    (vs : List FieldValue) :
    applyAll { members, openArray := some (name, items) } (vs.map .item) =
      { members, openArray := some (name, items ++ vs.map (·.json)) } := by
  induction vs generalizing items with
  | nil =>
    rw [List.map_nil, List.map_nil, List.append_nil]
    rfl
  | cons v vs ih =>
    have hrest := ih (items ++ [v.json])
    rw [List.append_assoc] at hrest
    exact hrest

theorem writes_array (name : String) (vs : List FieldValue) :
    Writes (.beginArray name :: vs.map .item ++ [.endArray])
      [(name, .array (vs.map (·.json)))] := fun members => by
  have hbegin : applyAll { members } [.beginArray name] =
      { members, openArray := some (name, []) } :=
    congrArg (Message.mk · (some (name, []))) (List.append_nil members)
  rw [List.cons_append, ← List.singleton_append, applyAll_append, hbegin, applyAll_append,
    applyAll_items]
  rfl

theorem writes_flatMap {α : Type} {f : α → List Call} {g : α → List (String × Json)}
    (h : ∀ a, Writes (f a) (g a)) (as : List α) : Writes (as.flatMap f) (as.flatMap g) := by
  induction as with
  | nil => exact writes_nil
  | cons a as ih => exact (h a).append ih

end Message

/-! ## Addresses -/

namespace Beacons

/-- The text of an address. -/
def addressText : MacFormat → Bytes → String
  | .bytes, addr => Hex.text addr
  | .colon, addr => colonText addr

theorem json_addressValue (format : MacFormat) (station : Bytes) :
    (addressValue format station).json = .string (addressText format (address station)) := by
  cases format <;> rfl

/-- The items of an array of stations. -/
def items (format : MacFormat) (beacons : Bytes) : List Json :=
  (split beacons).map fun station => .string (addressText format (address station))

end Beacons

/-! ## Members -/

/-- The members of a record. -/
def Record.members (format : MacFormat) : Record → List (String × Json)
  | .gnss timestamp status fix =>
    [("GNSS_TS", .number (.int timestamp.toNat)), ("GNSS_Status", .number (.int status.toNat)),
      ("GNSS", .string (Hex.text fix))]
  | .wifi timestamp beacons =>
    [("WiFi_TS", .number (.int timestamp.toNat)),
      ("WiFi_MACs", .array (Beacons.items format beacons))]

theorem Record.writes_calls (format : MacFormat) (r : Record) :
    Message.Writes (r.calls format) (r.members format) := by
  cases r with
  | gnss timestamp status fix =>
    rw [members, ← FieldValue.json_ofNat timestamp.toNat_lt, ← FieldValue.json_ofNat status.toNat_lt]
    exact (Message.writes_field "GNSS_TS" _).append
      ((Message.writes_field "GNSS_Status" _).append (Message.writes_field "GNSS" (.bytes fix)))
  | wifi timestamp beacons =>
    have hitems : Beacons.items format beacons =
        ((Beacons.split beacons).map (Beacons.addressValue format)).map (·.json) := by
      rw [Beacons.items, List.map_map]
      exact List.map_congr_left fun station _ => (Beacons.json_addressValue format station).symm
    have hcalls : (Record.wifi timestamp beacons).calls format =
        [.field "WiFi_TS" (.ofNat timestamp.toNat)] ++ (.beginArray "WiFi_MACs" ::
          ((Beacons.split beacons).map (Beacons.addressValue format)).map .item ++ [.endArray]) := by
      rw [List.map_map]
      rfl
    rw [members, hitems, hcalls, ← FieldValue.json_ofNat timestamp.toNat_lt]
    exact (Message.writes_field "WiFi_TS" _).append (Message.writes_array "WiFi_MACs" _)

namespace DeviceStatus

/-- The names of the values of a status, in the order of their members. -/
def names : List (String × Tag) :=
  [("Batt", .battery), ("Ener", .energy), ("Charge", .chargeTime), ("Flags", .flags),
    ("Resets", .resets), ("Temp", .temperature)]

/-- The members of a status: one for each value that is present. -/
def members (s : DeviceStatus) : List (String × Json) :=
  names.filterMap fun (name, tag) => (s.number? tag).map fun n => (name, .number (.int n))

variable {s : DeviceStatus}

theorem calls_eq (s : DeviceStatus) :
    s.calls = names.flatMap fun (name, tag) => optionalField name (s.number? tag) := by
  simp [calls, names, number?]

/-- The values of a status are bytes and words, so that they are 64-bit integers. -/
theorem number?_bounds {tag : Tag} {n : Int} (h : s.number? tag = some n) :
    -128 ≤ n ∧ n < 4294967296 := by
  cases tag with
  | temperature =>
    obtain ⟨v, -, rfl⟩ := Option.map_eq_some_iff.1 h
    have hlow := v.le_toInt
    have hhigh := v.toInt_lt
    omega
  | gnss | wifi => cases h
  | battery | energy | chargeTime | flags | resets =>
    obtain ⟨v, -, rfl⟩ := Option.map_eq_some_iff.1 h
    have hlt := v.toNat_lt
    omega

theorem json_of_number? {tag : Tag} {n : Int} (h : s.number? tag = some n) :
    (FieldValue.ofInt n).json = .number (.int n) :=
  have hbounds := number?_bounds h
  FieldValue.json_ofInt (Int.le_trans (by decide) hbounds.1)
    (Int.le_trans (Int.le_of_lt hbounds.2) (by decide))

theorem writes_optionalField (name : String) (tag : Tag) :
    Message.Writes (optionalField name (s.number? tag))
      ((s.number? tag).map fun n => (name, Json.number (.int n))).toList := by
  cases h : s.number? tag with
  | none => exact Message.writes_nil
  | some n =>
    rw [Option.map_some, ← json_of_number? h]
    exact Message.writes_field name _

theorem writes_calls (s : DeviceStatus) : Message.Writes s.calls s.members := by
  rw [calls_eq, members, List.filterMap_eq_flatMap_toList]
  exact Message.writes_flatMap (fun m => writes_optionalField m.1 m.2) names

end DeviceStatus

namespace Telemetry

/-- The members of a telemetry message. -/
def members (o : MessageOptions) (t : Telemetry) : List (String × Json) :=
  [("msgtype", .string t.kind.name), ("DevEui", .string t.devEui.text),
      ("FCnt", .number (.int t.fcnt.toNat))] ++
    t.records.flatMap (·.members o.macFormat) ++ t.status.members ++
    if o.rawPayload then [("payload", .string (Hex.text t.raw))] else []

theorem writes_calls (o : MessageOptions) (t : Telemetry) :
    Message.Writes (Uplink.calls o (.telemetry t)) (t.members o) := by
  have hheader : Message.Writes
      [.field "msgtype" (.text t.kind.name), .field "DevEui" (.eui t.devEui),
        .field "FCnt" (.ofNat t.fcnt.toNat)]
      [("msgtype", .string t.kind.name), ("DevEui", .string t.devEui.text),
        ("FCnt", .number (.int t.fcnt.toNat))] := by
    rw [← FieldValue.json_ofNat t.fcnt.toNat_lt]
    exact (Message.writes_field "msgtype" (.text _)).append
      ((Message.writes_field "DevEui" (.eui _)).append (Message.writes_field "FCnt" _))
  have hpayload : Message.Writes (if o.rawPayload then [.field "payload" (.bytes t.raw)] else [])
      (if o.rawPayload then [("payload", .string (Hex.text t.raw))] else []) := by
    split_ifs
    · exact Message.writes_field "payload" (.bytes t.raw)
    · exact Message.writes_nil
  have hrecords := Message.writes_flatMap (Record.writes_calls o.macFormat) t.records
  exact ((hheader.append hrecords).append t.status.writes_calls).append hpayload

/-- Whatever a telemetry frame is forwarded into, it appends its members and leaves no array open. -/
theorem message_forward {frame : Bytes} {filters : Filters} {t : Telemetry}
    (hdecode : Uplink.decode frame filters = .ok (.telemetry t)) (o : MessageOptions) (s : Sinks) :
    (forward frame filters o s).2.message =
      { members := s.message.allMembers ++ t.members o } := by
  rw [Uplink.message_forward hdecode, Uplink.message, t.writes_calls o []]
  rfl

end Telemetry

/-! ## Records and their items -/

/-- The size that a record declares in the byte behind its tag. -/
def Telemetry.Item.size? (i : Item) : Option Nat :=
  i.content.head?.map (·.toNat)

/-- What the members of a record tell of its item, which declares its size. A satellite fix is told
    as a whole. Of a Wi-Fi item, every eight bytes behind the timestamp are told by one item of the
    array, the second one of them left out. -/
def Telemetry.Item.Shows (format : MacFormat) (i : Item) (ms : List (String × Json)) : Prop :=
  match i with
  | .gnss timestamp status fix => i.size? = some (gnssHeader + fix.length) ∧
    ms = [("GNSS_TS", .number (.int timestamp.toNat)),
      ("GNSS_Status", .number (.int status.toNat)), ("GNSS", .string (Hex.text fix))]
  | .wifi timestamp body => ∃ size stations, i.size? = some size ∧ size = wifiHeader + body.length ∧
    ms = [("WiFi_TS", .number (.int timestamp.toNat)), ("WiFi_MACs", .array stations)] ∧
    stations.length = (size - wifiHeader) / beaconWidth ∧
    ∀ k a b c d e f g h, Bytes.Holds body (beaconWidth * k) [a, b, c, d, e, f, g, h] →
      stations[k]? = some (.string (Beacons.addressText format [a, c, d, e, f, g, h]))
  | _ => False

namespace Beacons

theorem getElem?_items_of_holds {bs : Bytes} {format : MacFormat} {i : Nat}
    {a b c d e f g h : UInt8}
    (hholds : Bytes.Holds bs (beaconWidth * i) [a, b, c, d, e, f, g, h]) :
    (items format bs)[i]? = some (.string (addressText format [a, c, d, e, f, g, h])) := by
  rw [items, List.getElem?_map, getElem?_split_of_holds hholds]
  rfl

theorem length_items (format : MacFormat) (bs : Bytes) :
    (items format bs).length = bs.length / beaconWidth := by
  rw [items, List.length_map, length_split]

end Beacons

/-- The members of a record tell all of its item. -/
theorem Record.shows_of_yields {i : Item} {r : Record} (hfits : i.Fits) (hyields : i.Yields r)
    (format : MacFormat) : i.Shows format (r.members format) := by
  cases r with
  | gnss timestamp status fix =>
    obtain rfl : i = .gnss timestamp status fix := hyields
    have hsize : (UInt8.ofNat (gnssHeader + fix.length)).toNat = gnssHeader + fix.length :=
      UInt8.toNat_ofNat_of_lt' (Nat.lt_of_le_of_lt (Nat.add_le_add_left hfits _) (by decide))
    exact ⟨congrArg some hsize, rfl⟩
  | wifi timestamp beacons =>
    obtain ⟨rest, rfl, hwhole, hrest⟩ := hyields
    have hsize : (UInt8.ofNat (wifiHeader + (beacons ++ rest).length)).toNat =
        wifiHeader + (beacons ++ rest).length :=
      UInt8.toNat_ofNat_of_lt' (Nat.lt_of_le_of_lt (Nat.add_le_add_left hfits _) (by decide))
    -- The bytes that the record leaves out of the item are too few for a station.
    have hitems : Beacons.items format beacons = Beacons.items format (beacons ++ rest) := by
      rw [Beacons.items, Beacons.items, Beacons.split_append hwhole hrest]
    refine ⟨_, _, congrArg some hsize, rfl, rfl, ?_, fun k a b c d e f g h hholds => ?_⟩
    · rw [hitems, Beacons.length_items, Nat.add_sub_cancel_left]
    · rw [hitems, Beacons.getElem?_items_of_holds hholds]

/-- The members of the records tell the items that hold records, one after the other. -/
theorem Telemetry.Reports.shows {frame bs tail : Bytes} {t : Telemetry} {items : List Item}
    (h : t.Reports frame items) (hstream : Stream bs items tail) (format : MacFormat) :
    List.Forall₂ (Item.Shows format) (items.filter Item.isRecord)
      (t.records.map (·.members format)) := by
  have hfits : ∀ i ∈ items.filter Item.isRecord, i.Fits :=
    fun i hi => hstream.fits i (List.mem_of_mem_filter hi)
  rw [List.forall₂_map_right_iff]
  exact ((List.forall₂_and_left _ _).2 ⟨hfits, h.records⟩).imp
    fun i r hi => Record.shows_of_yields hi.1 hi.2 format

/-! ## The kind of a message -/

theorem Record.mem_names_gnss {format : MacFormat} {r : Record} :
    "GNSS_TS" ∈ (r.members format).map (·.1) ↔ r.isGnss = true := by
  cases r <;> simp [members, isGnss]

theorem Record.mem_names_wifi {format : MacFormat} {r : Record} :
    "WiFi_TS" ∈ (r.members format).map (·.1) ↔ (!r.isGnss) = true := by
  cases r <;> simp [members, isGnss]

theorem DeviceStatus.mem_names_of_mem {s : DeviceStatus} {name : String}
    (h : name ∈ s.members.map (·.1)) : name ∈ names.map (·.1) := by
  obtain ⟨p, hp, rfl⟩ := List.mem_map.1 h
  obtain ⟨⟨name, tag⟩, hname, hp⟩ := List.mem_filterMap.1 hp
  obtain ⟨n, -, rfl⟩ := Option.map_eq_some_iff.1 hp
  exact List.mem_map_of_mem hname

namespace Telemetry

variable {o : MessageOptions} {t : Telemetry}

/-- A name that neither the header nor the status nor the raw frame has is one of a record. -/
theorem mem_names_iff (name : String)
    (h : name ∉ ["msgtype", "DevEui", "FCnt", "payload"] ++ DeviceStatus.names.map (·.1)) :
    name ∈ (t.members o).map (·.1) ↔
      ∃ r ∈ t.records, name ∈ (r.members o.macFormat).map (·.1) := by
  simp only [members, List.map_append, List.mem_append, List.map_flatMap, List.mem_flatMap]
  constructor
  · rintro (((hheader | hrecord) | hstatus) | hpayload)
    · exact absurd (List.mem_append_left _ (List.mem_append_left ["payload"] hheader)) h
    · exact hrecord
    · exact absurd (List.mem_append_right _ (DeviceStatus.mem_names_of_mem hstatus)) h
    · split_ifs at hpayload
      · exact absurd (List.mem_append_left _
          (List.mem_append_right ["msgtype", "DevEui", "FCnt"] hpayload)) h
      · cases hpayload
  · exact fun hrecord => .inl (.inl (.inr hrecord))

theorem mem_names_gnss :
    "GNSS_TS" ∈ (t.members o).map (·.1) ↔ t.records.any Record.isGnss = true := by
  simp only [mem_names_iff "GNSS_TS" (by decide), Record.mem_names_gnss, List.any_eq_true]

theorem mem_names_wifi :
    "WiFi_TS" ∈ (t.members o).map (·.1) ↔ t.records.any (!·.isGnss) = true := by
  simp only [mem_names_iff "WiFi_TS" (by decide), Record.mem_names_wifi, List.any_eq_true]

/-- The kind of a telemetry message tells which names of records are among its members. -/
theorem name_kind_eq (o : MessageOptions) (t : Telemetry) : t.kind.name =
    if "GNSS_TS" ∈ (t.members o).map (·.1) then
      if "WiFi_TS" ∈ (t.members o).map (·.1) then "gnss_wifi" else "gnss"
    else if "WiFi_TS" ∈ (t.members o).map (·.1) then "wifi" else "status" := by
  simp only [mem_names_gnss, mem_names_wifi, kind]
  cases t.records.any Record.isGnss <;> cases t.records.any (!·.isGnss) <;> rfl

end Telemetry

/-- A telemetry frame, forwarded into a new message, yields the members of what it was decoded to.
    The members of its records tell the items of the frame that hold them, one after the other, and
    the kind tells which names of records there are. -/
theorem forward_telemetry {frame : Bytes} {filters : Filters} {t : Telemetry}
    (hdecode : Uplink.decode frame filters = .ok (.telemetry t)) (o : MessageOptions)
    (diagnostics : String) :
    let result := forward frame filters o { diagnostics }
    let m := result.2.message
    result.1 = .ok t.kind ∧
    m = { members := t.members o } ∧
    (∃ items tail, Telemetry.Stream (frame.drop itemsOffset) items tail ∧ t.Reports frame items ∧
      List.Forall₂ (Item.Shows o.macFormat) (items.filter Item.isRecord)
        (t.records.map (·.members o.macFormat))) ∧
    (m.first? "msgtype" = some (.string "gnss_wifi") ↔
      "GNSS_TS" ∈ m.names ∧ "WiFi_TS" ∈ m.names) ∧
    (m.first? "msgtype" = some (.string "gnss") ↔ "GNSS_TS" ∈ m.names ∧ "WiFi_TS" ∉ m.names) ∧
    (m.first? "msgtype" = some (.string "wifi") ↔ "GNSS_TS" ∉ m.names ∧ "WiFi_TS" ∈ m.names) ∧
    (m.first? "msgtype" = some (.string "status") ↔
      "GNSS_TS" ∉ m.names ∧ "WiFi_TS" ∉ m.names) := by
  intro result m
  have hresult : result.1 = .ok t.kind := by
    simp only [result, forward, hdecode]
    rfl
  have hm : m = { members := t.members o } := Telemetry.message_forward hdecode o { diagnostics }
  have hkind : m.first? "msgtype" = some (.string t.kind.name) := by
    rw [hm]
    rfl
  obtain ⟨hmarked, htelemetry⟩ := Uplink.decode_eq_ok_iff.1 hdecode
  obtain ⟨items, tail, hstream, hreports⟩ :=
    Telemetry.exists_stream_of_decode (Telemetry.isMarked_iff.1 hmarked).1 htelemetry
  refine ⟨hresult, hm, ⟨items, tail, hstream, hreports, hreports.shows hstream o.macFormat⟩, ?_⟩
  have hnames : m.names = (t.members o).map (·.1) := by
    rw [hm]
    rfl
  rw [hkind, hnames, t.name_kind_eq o]
  by_cases hgnss : "GNSS_TS" ∈ (t.members o).map (·.1) <;>
    by_cases hwifi : "WiFi_TS" ∈ (t.members o).map (·.1) <;> simp [hgnss, hwifi]

/-- The temperature before the battery, and between them a satellite fix of one byte and a Wi-Fi item
    with one station and two bytes of another one. -/
theorem forward_telemetry_mixed :
    let frame : Bytes := [0x01, 0, 0, 0, 0, 0, 0, 0, 7, 0x41, 0, 0, 0, 9] ++ [0x50, 0xFF] ++
      [0x61, 9, 1, 0, 0, 0, 0, 0, 0, 2, 0xAA] ++
      [0x62, 14, 5, 0, 0, 0, 0xA1, 2, 3, 4, 5, 6, 7, 8, 9, 9] ++ [0x10, 0x0C, 0xE4]
    let t : Telemetry :=
      { devEui := ⟨7⟩, fcnt := 9,
        records := [.gnss 1 2 [0xAA], .wifi 5 [0xA1, 2, 3, 4, 5, 6, 7, 8]],
        status := { battery := some 3300, temperature := some (-1) }, raw := frame }
    Uplink.decode frame {} = .ok (.telemetry t) ∧
    (forward frame {} { macFormat := .colon, rawPayload := false } {}).2.message =
      { members := [("msgtype", .string "gnss_wifi"), ("DevEui", .string "00-00-00-00-00-00-00-07"),
          ("FCnt", .number (.int 9)), ("GNSS_TS", .number (.int 1)),
          ("GNSS_Status", .number (.int 2)), ("GNSS", .string "AA"), ("WiFi_TS", .number (.int 5)),
          ("WiFi_MACs", .array [.string "A1:03:04:05:06:07:08"]), ("Batt", .number (.int 3300)),
          ("Temp", .number (.int (-1)))] } := by
  intro frame t
  have hdecode : Uplink.decode frame {} = .ok (.telemetry t) := by cbv
  have hmembers := (forward_telemetry hdecode { macFormat := .colon, rawPayload := false } "").2.1
  refine ⟨hdecode, hmembers.trans ?_⟩
  simp only [t, frame]
  rfl

end LoraGateway
