import LoraGateway.Emission
import LoraGateway.Proofs.Checked.Access
import LoraGateway.Proofs.Stations

/-!
# Emission with checked access

What is written for a frame, with every access checked: the digits of bytes are looked up in a
table and their number is a product, the bytes of identifiers and of the stations of a Wi-Fi record
are taken by their indices, and stations are counted. None of this traps for a frame whose byte
strings have digits that can be counted (`Bounded`), and what is written is the same
(`emit?_eq_some`, `discardLine?_eq_some`). How much room there is for what is written is not
modelled.
-/

namespace LoraGateway.Checked

/-! ## Texts -/

/-- The sixteen digits. -/
def hexDigits : List Char :=
  ['0', '1', '2', '3', '4', '5', '6', '7', '8', '9', 'A', 'B', 'C', 'D', 'E', 'F']

/-- The two digits of a byte. -/
def hexByte? (b : UInt8) : Option (List Char) := do
  let high ← index? hexDigits (b >>> 4).toNat
  let low ← index? hexDigits (b &&& 0x0F).toNat
  some [high, low]

/-- The digits of a byte string. How many there will be is found out at first, as a product that may
    trap; a limit on the room for them is not modelled. -/
def hexText? (bs : Bytes) : Option String := do
  let _ ← mul? bs.length 2
  let digits ← bs.mapM hexByte?
  some (String.ofList digits.flatten)

/-- The written form of an identifier. -/
def euiText? (e : Eui) : Option String := do
  let bs ← [0, 1, 2, 3, 4, 5, 6, 7].mapM (index? (Bytes.beBytes 8 e.value.toNat))
  some (String.ofList (['-'].intercalate (bs.map Hex.byte)))

theorem hexByte?_eq_some (b : UInt8) : hexByte? b = some (Hex.byte b) := by
  revert b
  exact Bytes.forall_byte (by decide +kernel)

theorem hexText?_eq_some {bs : Bytes} (h : bs.length < 2 ^ 63) :
    hexText? bs = some (Hex.text bs) := by
  have hdigits : bs.mapM hexByte? = some (bs.map Hex.byte) :=
    mapM_eq_some fun b _ => hexByte?_eq_some b
  rw [hexText?, mul?_eq_some (by omega), hdigits, Hex.text, Hex.encode, List.flatMap_def]
  rfl

/-- Eight bytes, each by its index. -/
theorem exists_eight {bs : Bytes} (h : bs.length = 8) :
    ∃ a b c d e f g k, bs = [a, b, c, d, e, f, g, k] := by
  match bs, h with
  | [a, b, c, d, e, f, g, k], _ => exact ⟨a, b, c, d, e, f, g, k, rfl⟩

theorem euiText?_eq_some (e : Eui) : euiText? e = some e.text := by
  obtain ⟨a, b, c, d, e', f, g, k, hbs⟩ := exists_eight (Bytes.length_beBytes 8 e.value.toNat)
  rw [euiText?, Eui.text, Eui.chars, hbs]
  rfl

/-! ## Fields -/

/-- The JSON value of a field. -/
def fieldValue? : FieldValue → Option Json
  | .text s => some (.string s)
  | .int n => some (.number (.int n.toInt))
  | .eui e => (euiText? e).map .string
  | .bytes bs => (hexText? bs).map .string

open Message (Call)

/-- The message after a step in its construction. -/
def step? (m : Message) : Call → Option Message
  | .field name v => do
    let json ← fieldValue? v
    some { members := m.endArray.members ++ [(name, json)] }
  | .beginArray name => some (m.beginArray name)
  | .item v =>
    match m.openArray with
    | none => some m
    | some (name, items) => do
      let json ← fieldValue? v
      some { m with openArray := some (name, items ++ [json]) }
  | .endArray => some m.endArray

/-- True of the values whose digits can be counted. -/
def ValueBounded : FieldValue → Prop
  | .bytes bs => bs.length < 2 ^ 63
  | _ => True

/-- True of the steps whose value has digits that can be counted. -/
def CallBounded : Call → Prop
  | .field _ v => ValueBounded v
  | .item v => ValueBounded v
  | _ => True

theorem fieldValue?_eq_some {v : FieldValue} (h : ValueBounded v) :
    fieldValue? v = some v.json := by
  cases v with
  | text s => rfl
  | int n => rfl
  | eui e => rw [fieldValue?, euiText?_eq_some]; rfl
  | bytes bs => rw [fieldValue?, hexText?_eq_some h]; rfl

theorem step?_eq_some (m : Message) {c : Call} (h : CallBounded c) :
    step? m c = some (m.apply c) := by
  cases c with
  | field name v => rw [step?, fieldValue?_eq_some h]; rfl
  | beginArray name => rfl
  | item v =>
    rw [step?, Message.apply, Message.item]
    cases hopen : m.openArray with
    | none =>
      cases m
      cases hopen
      rfl
    | some a =>
      rw [fieldValue?_eq_some h]
      rfl
  | endArray => rfl

theorem foldlM_step?_eq_some (m : Message) {calls : List Call} (h : ∀ c ∈ calls, CallBounded c) :
    calls.foldlM step? m = some (m.applyAll calls) := by
  induction calls generalizing m with
  | nil => rfl
  | cons c calls ih =>
    rw [List.forall_mem_cons] at h
    rw [List.foldlM_cons, step?_eq_some m h.1]
    exact ih (m.apply c) h.2

/-! ## Stations -/

/-- The whole chunks of a width. -/
def chunksExact (width : Nat) (bs : Bytes) : List Bytes :=
  if 0 < width ∧ width ≤ bs.length then
    bs.take width :: chunksExact width (bs.drop width)
  else []
termination_by bs.length
decreasing_by
  rw [List.length_drop]
  omega

/-- The value of the address of a station. -/
def station? (format : MacFormat) (chunk : Bytes) : Option FieldValue := do
  let record ← copy? 8 chunk
  let address ← [0, 2, 3, 4, 5, 6, 7].mapM (index? record)
  match format with
  | .bytes => some (.bytes address)
  | .colon => some (.text (Beacons.colonText address))

/-- The values of the addresses of stations, and how many there are with those before them. -/
def stations? (format : MacFormat) (count : Nat) : List Bytes → Option (List FieldValue × Nat)
  | [] => some ([], count)
  | chunk :: rest => do
    let v ← station? format chunk
    let count ← add? count 1
    let (vs, count) ← stations? format count rest
    some (v :: vs, count)

theorem chunksExact_eq_split (bs : Bytes) :
    chunksExact Telemetry.beaconWidth bs = Beacons.split bs := by
  fun_induction Beacons.split bs with
  | case1 a b c d e f g h rest ih =>
    rw [chunksExact, if_pos (by simp [Telemetry.beaconWidth])]
    exact congrArg _ ih
  | case2 bs hshort =>
    rw [chunksExact, if_neg]
    rintro ⟨-, hlength⟩
    exact absurd (Beacons.length_lt_of_ne_cons hshort) (Nat.not_lt.2 hlength)

theorem station?_eq_some (format : MacFormat) {chunk : Bytes} (h : chunk.length = 8) :
    station? format chunk = some (Beacons.addressValue format chunk) := by
  obtain ⟨a, b, c, d, e, f, g, k, rfl⟩ := exists_eight h
  cases format <;> rfl

theorem stations?_eq_some (format : MacFormat) {count : Nat} {chunks : List Bytes}
    (h : ∀ chunk ∈ chunks, chunk.length = 8) (hcount : count + chunks.length < 2 ^ 64) :
    stations? format count chunks =
      some (chunks.map (Beacons.addressValue format), count + chunks.length) := by
  induction chunks generalizing count with
  | nil => rfl
  | cons chunk chunks ih =>
    rw [List.forall_mem_cons] at h
    rw [List.length_cons] at hcount
    have hrest := ih h.2 (show count + 1 + chunks.length < 2 ^ 64 by omega)
    rw [stations?, station?_eq_some format h.1, add?_eq_some (by omega)]
    simp only [Option.bind_eq_bind, Option.bind_some, hrest]
    rw [List.map_cons, List.length_cons, Nat.add_assoc, Nat.add_comm 1]

/-! ## Frames -/

/-- The members and the line of a record. -/
def record? (format : MacFormat) : Record → Option (List Call × String)
  | r@(.gnss ..) => some (r.calls format, r.line)
  | .wifi timestamp beacons => do
    let (macs, count) ← stations? format 0 (chunksExact Telemetry.beaconWidth beacons)
    some ([.field "WiFi_TS" (.ofNat timestamp.toNat), .beginArray "WiFi_MACs"] ++
      macs.map .item ++ [.endArray], s!"WiFi: ts={timestamp.toNat} macs={count}")

/-- The lines of a decoded frame, and its members. -/
def emission? (o : MessageOptions) (u : Uplink) : Option (List Call × List String) :=
  let name := u.kind.name
  match u with
  | .join j => do
    let joinEui ← euiText? j.joinEui
    let devEui ← euiText? j.devEui
    some (u.calls o, [s!"{name} MHdr={Hex.text [j.mhdr]} JoinEui={joinEui} DevEui={devEui} " ++
      s!"DevNonce={j.devNonce.toNat} MIC={j.mic.toInt}"])
  | .data d => do
    let fopts ← hexText? d.fopts
    let payload ← hexText? d.payload
    some (u.calls o,
      [s!"{name} mhdr={Hex.text [d.mhdr]} DevAddr={d.devAddr.text} FCtrl={Hex.text [d.fctrl]} " ++
        s!"FCnt={d.fcnt.toNat} FOpts=[{fopts}] FPort={d.portNumber} " ++
        s!"FRMPayload={payload} mic={d.mic.toInt}"])
  | .raw payload => do
    let digits ← hexText? payload
    some (u.calls o, [s!"{name} payload={digits} ({payload.length} bytes) not LoRaWAN"])
  | .telemetry t => do
    let devEui ← euiText? t.devEui
    let records ← t.records.mapM (record? o.macFormat)
    some (.field "msgtype" (.text name) ::
        ([.field "DevEui" (.eui t.devEui), .field "FCnt" (.ofNat t.fcnt.toNat)] ++
          records.flatMap (·.1) ++ t.status.calls ++
          if o.rawPayload then [.field "payload" (.bytes t.raw)] else []),
      s!"{name} DevEui={devEui} FCnt={t.fcnt.toNat} records={t.records.length}" ::
        (records.map (·.2) ++ if t.status.isEmpty then [] else [t.status.line]))

/-- Writes a decoded frame. -/
def emit? (s : Sinks) (o : MessageOptions) (u : Uplink) : Option Sinks := do
  let (calls, lines) ← emission? o u
  let message ← calls.foldlM step? s.message
  some ({ s with message }.addLines lines)

/-- The line of a discarded frame. -/
def discardLine? (frame : Bytes) : Discard → Option String
  | .filtered (.joinEui e) => do
    let text ← euiText? e
    some s!"Join EUI {text} filtered"
  | .filtered cause => some cause.message
  | .malformed cause => do
    let start ← slice? frame 0 (min frame.length 16)
    let digits ← hexText? start
    some s!"Not a frame ({cause.message}): {digits}"

/-- The bytes that a record holds besides its numbers. -/
def recordBytes : Record → Bytes
  | .gnss _ _ fix => fix
  | .wifi _ beacons => beacons

/-- True of the decoded frames whose byte strings have digits that can be counted. -/
def Bounded : Uplink → Prop
  | .join _ => True
  | .data d => d.fopts.length < 2 ^ 63 ∧ d.payload.length < 2 ^ 63
  | .raw payload => payload.length < 2 ^ 63
  | .telemetry t => (∀ r ∈ t.records, (recordBytes r).length < 2 ^ 63) ∧ t.raw.length < 2 ^ 63

theorem record?_eq_some (format : MacFormat) {r : Record} (h : (recordBytes r).length < 2 ^ 63) :
    record? format r = some (r.calls format, r.line) := by
  cases r with
  | gnss timestamp status fix => rfl
  | wifi timestamp beacons =>
    have hcount : 0 + (Beacons.split beacons).length < 2 ^ 64 := by
      rw [Beacons.length_split, Telemetry.beaconWidth]
      rw [recordBytes] at h
      omega
    rw [record?, chunksExact_eq_split,
      stations?_eq_some format (fun _ hchunk => Beacons.length_of_mem_split hchunk) hcount]
    simp only [Option.bind_eq_bind, Option.bind_some, List.map_map, Nat.zero_add]
    rfl

theorem emission?_eq_some (o : MessageOptions) {u : Uplink} (h : Bounded u) :
    emission? o u = some (u.calls o, u.lines) := by
  cases u with
  | join j =>
    simp only [emission?, euiText?_eq_some, Option.bind_eq_bind, Option.bind_some, Uplink.lines]
  | data d =>
    simp only [emission?, hexText?_eq_some h.1, hexText?_eq_some h.2, Option.bind_eq_bind,
      Option.bind_some, Uplink.lines]
  | raw payload =>
    simp only [emission?, hexText?_eq_some h, Option.bind_eq_bind, Option.bind_some, Uplink.lines]
  | telemetry t =>
    have hrecords : t.records.mapM (record? o.macFormat) =
        some (t.records.map fun r => (r.calls o.macFormat, r.line)) :=
      mapM_eq_some fun r hr => record?_eq_some _ (h.1 r hr)
    simp only [emission?, euiText?_eq_some, hrecords, Option.bind_eq_bind, Option.bind_some,
      Uplink.lines, Uplink.calls, Telemetry.calls, List.flatMap_map, List.map_map]
    rfl

theorem callBounded_record (format : MacFormat) {r : Record} (h : (recordBytes r).length < 2 ^ 63) :
    ∀ c ∈ r.calls format, CallBounded c := by
  cases r with
  | gnss timestamp status fix =>
    simp only [Record.calls, List.forall_mem_cons]
    exact ⟨trivial, trivial, h, nofun⟩
  | wifi timestamp beacons =>
    have hitem : ∀ station ∈ Beacons.split beacons,
        ValueBounded (Beacons.addressValue format station) := by
      intro station hstation
      have hlength := Beacons.length_of_mem_split hstation
      rw [Telemetry.beaconWidth] at hlength
      cases format with
      | bytes =>
        have hle := List.length_eraseIdx_le station 1
        exact Nat.lt_of_le_of_lt hle (by omega)
      | colon => trivial
    simp only [Record.calls, List.forall_mem_append, List.forall_mem_cons, List.forall_mem_map]
    exact ⟨⟨⟨trivial, trivial, nofun⟩, hitem⟩, trivial, nofun⟩

theorem callBounded_status (s : DeviceStatus) : ∀ c ∈ s.calls, CallBounded c := by
  have hfield (name : String) (v : Option Int) : ∀ c ∈ optionalField name v, CallBounded c := by
    rw [optionalField, List.forall_mem_map]
    exact fun _ _ => trivial
  simp only [DeviceStatus.calls, List.forall_mem_append]
  exact ⟨⟨⟨⟨⟨hfield _ _, hfield _ _⟩, hfield _ _⟩, hfield _ _⟩, hfield _ _⟩, hfield _ _⟩

theorem callBounded_calls (o : MessageOptions) {u : Uplink} (h : Bounded u) :
    ∀ c ∈ u.calls o, CallBounded c := by
  cases u with
  | join j =>
    simp only [Uplink.calls, JoinRequest.calls, List.forall_mem_cons]
    exact ⟨trivial, trivial, trivial, trivial, trivial, trivial, nofun⟩
  | data d =>
    simp only [Uplink.calls, DataFrame.calls, List.forall_mem_cons]
    exact ⟨trivial, trivial, trivial, trivial, trivial, h.1, trivial, h.2, trivial, nofun⟩
  | raw payload =>
    simp only [Uplink.calls, List.forall_mem_cons]
    exact ⟨trivial, h, nofun⟩
  | telemetry t =>
    simp only [Uplink.calls, Telemetry.calls, List.forall_mem_append, List.forall_mem_cons,
      List.forall_mem_flatMap]
    refine ⟨trivial, ⟨⟨⟨trivial, trivial, nofun⟩, fun r hr => callBounded_record _ (h.1 r hr)⟩,
      callBounded_status t.status⟩, ?_⟩
    cases o.rawPayload with
    | true =>
      simp only [if_true, List.forall_mem_cons]
      exact ⟨h.2, nofun⟩
    | false => nofun

theorem emit?_eq_some (s : Sinks) (o : MessageOptions) {u : Uplink} (h : Bounded u) :
    emit? s o u = some (s.emit o u) := by
  rw [emit?, emission?_eq_some o h]
  simp only [Option.bind_eq_bind, Option.bind_some, foldlM_step?_eq_some _ (callBounded_calls o h)]
  rfl

theorem discardLine?_eq_some {frame : Bytes} (d : Discard) :
    discardLine? frame d = some (d.line frame) := by
  cases d with
  | filtered cause =>
    cases cause with
    | joinEui e => rw [discardLine?, euiText?_eq_some]; rfl
    | netId a n => rfl
  | malformed cause =>
    have hrange : frame.range 0 (min frame.length 16) = frame.take 16 := by
      rw [Bytes.range, List.drop_zero, List.take_eq_take_iff]
      omega
    have hshort : (frame.take 16).length < 2 ^ 63 := by
      rw [List.length_take]
      omega
    rw [discardLine?, slice?_eq_some (Nat.zero_le _) (Nat.min_le_left _ _), hrange]
    simp only [Option.bind_eq_bind, Option.bind_some, hexText?_eq_some hshort]
    rfl

end LoraGateway.Checked
