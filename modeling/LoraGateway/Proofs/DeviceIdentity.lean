import LoraGateway.Proofs.MacFrame
import LoraGateway.Proofs.TelemetryMessage

/-!
# One device, one identity

A join request carries the identifier of its device with the least significant byte first, and a
telemetry frame with the most significant byte first (`Uplink.CarriesDevice`). Their messages name
the device alike: the texts in two messages are the same if and only if the identifiers in the
frames are.

* `Uplink.carriesDevice_iff`: the identifier in a frame is the one that its decoder finds;
* `Uplink.all_devEui_message`: a message names that device, once, and in the written form;
* `Reception.device_named_alike`: what the messages of any two frames say of their devices.
-/

namespace LoraGateway

open Bytes (Holds leBytes beBytes)

namespace Uplink

/-- The frame of a decoded message holds the identifier of a device, in the place and the byte order
    of its kind. -/
def CarriesDevice (frame : Bytes) (e : Eui) : Uplink → Prop
  | .join _ => Holds frame 9 (leBytes 8 e.value.toNat)
  | .telemetry _ => Holds frame 1 (beBytes 8 e.value.toNat)
  | .data _ => False
  | .raw _ => False

/-- The device that a decoded message comes from. -/
def device? : Uplink → Option Eui
  | .join request => some request.devEui
  | .telemetry report => some report.devEui
  | .data _ => none
  | .raw _ => none

/-! ## What a frame carries -/

section Carried

variable {frame : Bytes} {filters : Filters} {u : Uplink} {e e' : Eui}

/-- In either byte order, the bytes at an offset are those of one identifier, the one that is read
    there. -/
theorem holds_leBytes_iff_eq {offset : Nat} (h : Holds frame offset (leBytes 8 e.value.toNat)) :
    Holds frame offset (leBytes 8 e'.value.toNat) ↔ e = e' := by
  obtain ⟨n⟩ := e
  obtain ⟨n'⟩ := e'
  rw [← Wire.le64_eq_ok_iff, Wire.le64_eq_ok_iff.2 h, Except.ok.injEq, Eui.mk.injEq]

theorem holds_beBytes_iff_eq {offset : Nat} (h : Holds frame offset (beBytes 8 e.value.toNat)) :
    Holds frame offset (beBytes 8 e'.value.toNat) ↔ e = e' := by
  obtain ⟨n⟩ := e
  obtain ⟨n'⟩ := e'
  rw [← Wire.be64_eq_ok_iff, Wire.be64_eq_ok_iff.2 h, Except.ok.injEq, Eui.mk.injEq]

/-- The decoder of telemetry finds the identifier behind the first marker. -/
theorem holds_devEui_of_decode {t : Telemetry} (h : Telemetry.decode frame = .ok t) :
    Holds frame 1 (beBytes 8 t.devEui.value.toNat) := by
  simp only [Telemetry.decode, Result.bind_eq_ok_iff, Result.map_eq_ok_iff, Result.pure_eq_ok_iff,
    Wire.be64_eq_ok_iff] at h
  obtain ⟨_, ⟨_, hfield, rfl⟩, _, _, _, _, rfl⟩ := h
  exact hfield

/-- A frame carries the device that its message comes from, and no other one. -/
theorem carriesDevice_iff (h : decode frame filters = .ok u) :
    u.CarriesDevice frame e ↔ u.device? = some e := by
  have horigin := decode_eq_ok_iff.1 h
  cases u with
  | join j =>
    have hfields := JoinRequest.eq_encode_iff.1 (JoinRequest.decode_eq_ok_iff.1 horigin.2.2).1
    rw [CarriesDevice, holds_leBytes_iff_eq hfields.2.2.2.1, device?, Option.some_inj]
  | telemetry t =>
    rw [CarriesDevice, holds_beBytes_iff_eq (holds_devEui_of_decode horigin.2), device?,
      Option.some_inj]
  | data d => exact iff_of_false id nofun
  | raw payload => exact iff_of_false id nofun

end Carried

/-! ## What a message names -/

theorem all_devEui_join (o : MessageOptions) (j : JoinRequest) :
    ((join j).message o).all "DevEui" = [.string j.devEui.text] := by
  simp [message, calls, JoinRequest.calls, Message.all, Message.applyAll, Message.apply,
    Message.field, Message.endArray, Message.allMembers, FieldValue.json]

theorem filter_eq_nil_of_not_mem_names {name : String} {ms : List (String × Json)}
    (h : name ∉ ms.map (·.1)) : ms.filter (·.1 == name) = [] := by
  rw [List.filter_eq_nil_iff]
  intro m hm hname
  exact h (beq_iff_eq.1 hname ▸ List.mem_map_of_mem hm)

/-- Behind the header of a telemetry message, no member has the name of the device. -/
theorem all_devEui_telemetry (o : MessageOptions) (t : Telemetry) :
    ((telemetry t).message o).all "DevEui" = [.string t.devEui.text] := by
  have hrecords : "DevEui" ∉ (t.records.flatMap (·.members o.macFormat)).map (·.1) := by
    rw [List.map_flatMap, List.mem_flatMap]
    rintro ⟨r, -, hr⟩
    cases r <;> simp [Record.members] at hr
  have hstatus : "DevEui" ∉ t.status.members.map (·.1) :=
    fun h => absurd (DeviceStatus.mem_names_of_mem h) (by decide)
  have hpayload : "DevEui" ∉ (if o.rawPayload then [("payload", Json.string (Hex.text t.raw))]
      else []).map (·.1) := by
    split_ifs <;> simp
  have hmessage : (telemetry t).message o = { members := t.members o } := t.writes_calls o []
  rw [hmessage, Message.all, Telemetry.members, List.filter_append, List.filter_append,
    List.filter_append, filter_eq_nil_of_not_mem_names hrecords,
    filter_eq_nil_of_not_mem_names hstatus, filter_eq_nil_of_not_mem_names hpayload]
  rfl

/-- A message names the device that it comes from, once, and in the written form. -/
theorem all_devEui_message {u : Uplink} {e : Eui} (h : u.device? = some e) (o : MessageOptions) :
    (u.message o).all "DevEui" = [.string e.text] := by
  cases u with
  | join j =>
    obtain rfl : j.devEui = e := Option.some.inj h
    exact all_devEui_join o j
  | telemetry t =>
    obtain rfl : t.devEui = e := Option.some.inj h
    exact all_devEui_telemetry o t
  | data d => cases h
  | raw payload => cases h

end Uplink

namespace Reception

/-- The frame decodes to a join request or to telemetry, and carries the identifier. -/
def CarriesDevice (r : Reception) (e : Eui) : Prop :=
  ∃ u, Uplink.decode r.frame r.filters = .ok u ∧ u.CarriesDevice r.frame e

/-- Whatever the frame is forwarded into, its message gives the text for its device, and no other
    one. -/
def NamesDevice (r : Reception) (text : String) : Prop :=
  ∀ s : Sinks, (r.forward s).2.message.all "DevEui" =
    s.message.endArray.all "DevEui" ++ [.string text]

theorem CarriesDevice.namesDevice_iff {r : Reception} {e : Eui} (h : r.CarriesDevice e)
    {text : String} : r.NamesDevice text ↔ text = e.text := by
  obtain ⟨u, hdecode, hcarries⟩ := h
  have hdevice := (Uplink.carriesDevice_iff hdecode).1 hcarries
  have hall (s : Sinks) : (r.forward s).2.message.all "DevEui" =
      s.message.endArray.all "DevEui" ++ [.string e.text] := by
    rw [forward, Uplink.all_forward hdecode, Uplink.all_devEui_message hdevice]
  constructor
  · intro hnames
    have htext := hnames {}
    rw [hall, List.append_cancel_left_eq, List.singleton_inj] at htext
    exact (Json.string.inj htext).symm
  · rintro rfl
    exact hall

/-- A join request and a telemetry frame name the device that they carry by the same text: the
    written form of its identifier, which reads back as the identifier. The texts that two frames
    give are the same if and only if they carry the same identifier. -/
theorem device_named_alike {r : Reception} {e : Eui} (h : r.CarriesDevice e) :
    r.NamesDevice e.text ∧ Eui.ofText? e.text = some e ∧
    ∀ (r' : Reception) (e' : Eui) (text text' : String), r'.CarriesDevice e' →
      r.NamesDevice text → r'.NamesDevice text' → (text = text' ↔ e = e') := by
  refine ⟨h.namesDevice_iff.2 rfl, e.ofText?_text, fun r' e' text text' h' hnames hnames' => ?_⟩
  rw [h.namesDevice_iff.1 hnames, h'.namesDevice_iff.1 hnames']
  exact Eui.text_injective.eq_iff

/-- A join request and a telemetry frame of one device, with the bytes of its identifier in opposite
    orders, and a telemetry frame of the device whose identifier has these bytes reversed. -/
theorem device_named_alike_orders :
    let join : Reception := ⟨[0x00, 1, 0, 0, 0, 0, 0, 0, 0] ++ [8, 7, 6, 5, 4, 3, 2, 0xA1] ++
      [3, 0, 4, 0, 0, 0], {}, {}⟩
    let report : Reception := ⟨[0x01] ++ [0xA1, 2, 3, 4, 5, 6, 7, 8] ++
      [0x41, 0, 0, 0, 9, 0x30, 1], {}, {}⟩
    let other : Reception := ⟨[0x01] ++ [8, 7, 6, 5, 4, 3, 2, 0xA1] ++ [0x41, 0, 0, 0, 9], {}, {}⟩
    let e : Eui := ⟨0xA102030405060708⟩
    join.CarriesDevice e ∧ report.CarriesDevice e ∧ other.CarriesDevice ⟨0x08070605040302A1⟩ ∧
      join.NamesDevice "A1-02-03-04-05-06-07-08" ∧ report.NamesDevice "A1-02-03-04-05-06-07-08" ∧
      ¬other.NamesDevice "A1-02-03-04-05-06-07-08" := by
  intro join report other e
  have hjoin : join.CarriesDevice e :=
    ⟨.join ⟨false, 0, ⟨1⟩, e, 3, 4⟩, by decide, join.frame.take 9, join.frame.drop 17, by decide,
      rfl⟩
  have hreport : report.CarriesDevice e :=
    ⟨.telemetry ⟨e, 9, [], { flags := some 1 }, report.frame⟩, by cbv, report.frame.take 1,
      report.frame.drop 9, by decide, rfl⟩
  have hother : other.CarriesDevice ⟨0x08070605040302A1⟩ :=
    ⟨.telemetry ⟨⟨0x08070605040302A1⟩, 9, [], {}, other.frame⟩, by cbv, other.frame.take 1,
      other.frame.drop 9, by decide, rfl⟩
  have htext : e.text = "A1-02-03-04-05-06-07-08" := by decide
  have hnames := (device_named_alike hjoin).1
  have hnames' := (device_named_alike hreport).1
  rw [htext] at hnames hnames'
  refine ⟨hjoin, hreport, hother, hnames, hnames', fun hnamesOther => ?_⟩
  have halike := (device_named_alike hjoin).2.2 other _ _ _ hother hnames hnamesOther
  exact absurd (halike.1 rfl) (by decide)

end Reception

end LoraGateway
