import LoraGateway.Proofs.TelemetryMessage

/-!
# What the options change

The options change nothing of the result of a frame and of its diagnostics, and of its message only
what they name: whether a telemetry message ends with the whole frame, and how the addresses of
Wi-Fi stations are written in it.

* `Beacons.withoutColons_colonText`: both ways to write an address are the same but for the colons;
* `SameButColons`: members that differ in such colons alone, at most;
* `forward_options`: two runs of the same frame, under different options.
-/

namespace LoraGateway

/-- A text without the colons in it. -/
def withoutColons (s : String) : String :=
  String.ofList (s.toList.filter (· != ':'))

/-- The members are the same, or both are an array of stations, the second one with colons in its
    items. -/
inductive SameButColons : String × Json → String × Json → Prop
  | same (m : String × Json) : SameButColons m m
  | stations (texts : List String) : SameButColons
    ("WiFi_MACs", .array ((texts.map withoutColons).map .string))
    ("WiFi_MACs", .array (texts.map .string))

namespace SameButColons

variable {m m' : String × Json} {ms ms' : List (String × Json)}

theorem name_eq (h : SameButColons m m') : m.1 = m'.1 := by
  cases h <;> rfl

theorem names_eq (h : List.Forall₂ SameButColons ms ms') : ms.map (·.1) = ms'.map (·.1) := by
  induction h with
  | nil => rfl
  | cons h _ ih => rw [List.map_cons, List.map_cons, h.name_eq, ih]

theorem forall₂_refl (ms : List (String × Json)) : List.Forall₂ SameButColons ms ms :=
  List.forall₂_same.2 fun m _ => .same m

end SameButColons

/-- Both ways to write an address are the same but for the colons. -/
theorem Beacons.withoutColons_colonText (addr : Bytes) :
    withoutColons (colonText addr) = Hex.text addr := by
  have hdigits : ([':'].intercalate (addr.map Hex.byte)).filter (· != ':') = Hex.encode addr :=
    Hex.filter_intercalate (by decide) (by decide) addr
  rw [withoutColons, colonText, String.toList_ofList, hdigits, Hex.text]

theorem Record.sameButColons (r : Record) :
    List.Forall₂ SameButColons (r.members .bytes) (r.members .colon) := by
  cases r with
  | gnss timestamp status fix => exact SameButColons.forall₂_refl _
  | wifi timestamp beacons =>
    have hbytes : Beacons.items .bytes beacons = (((Beacons.split beacons).map
        fun station => Beacons.colonText (Beacons.address station)).map withoutColons).map
          .string := by
      simp only [Beacons.items, List.map_map, Function.comp_def, Beacons.withoutColons_colonText]
      rfl
    have hcolon : Beacons.items .colon beacons = ((Beacons.split beacons).map
        fun station => Beacons.colonText (Beacons.address station)).map .string := by
      simp only [Beacons.items, List.map_map, Function.comp_def]
      rfl
    rw [members, members, hbytes, hcolon]
    exact .cons (.same _) (.cons (.stations _) .nil)

namespace Telemetry

variable (t : Telemetry)

/-- A message with the whole frame is the one without it and the frame behind it. -/
theorem members_rawPayload (format : MacFormat) : t.members ⟨format, true⟩ =
    t.members ⟨format, false⟩ ++ [("payload", .string (Hex.text t.raw))] :=
  congrArg (· ++ _) (List.append_nil _).symm

theorem sameButColons_members (raw : Bool) :
    List.Forall₂ SameButColons (t.members ⟨.bytes, raw⟩) (t.members ⟨.colon, raw⟩) := by
  have hrecords : List.Forall₂ SameButColons (t.records.flatMap (·.members .bytes))
      (t.records.flatMap (·.members .colon)) := by
    refine List.rel_flatMap (List.forall₂_same.2 fun r _ => rfl) ?_
    rintro r _ rfl
    exact r.sameButColons
  exact List.rel_append (List.rel_append (List.rel_append (SameButColons.forall₂_refl _) hrecords)
    (SameButColons.forall₂_refl _)) (SameButColons.forall₂_refl _)

end Telemetry

/-- Only telemetry is written with options. -/
theorem Uplink.calls_eq_of_ne_telemetry {u : Uplink} (h : ∀ t, u ≠ .telemetry t)
    (o o' : MessageOptions) : u.calls o = u.calls o' := by
  cases u with
  | telemetry t => exact absurd rfl (h t)
  | _ => rfl

/-- A frame has the same result and the same diagnostics under all options, and the same message if
    it is no telemetry. With the whole frame, a telemetry message is the one without it and one
    further member. With colons in addresses, it has the same members as without them, but for
    arrays of stations, which are as long and have the same items but for the colons. -/
theorem forward_options (frame : Bytes) (filters : Filters) (s : Sinks) :
    let m (o : MessageOptions) := (forward frame filters o s).2.message
    (∀ o o', (forward frame filters o s).1 = (forward frame filters o' s).1 ∧
      (forward frame filters o s).2.diagnostics = (forward frame filters o' s).2.diagnostics) ∧
    ((∀ t, Uplink.decode frame filters ≠ .ok (.telemetry t)) → ∀ o o', m o = m o') ∧
    ∀ t, Uplink.decode frame filters = .ok (.telemetry t) →
      (∀ o, (m o).openArray = none) ∧
      (∀ format, (m ⟨format, true⟩).members =
        (m ⟨format, false⟩).members ++ [("payload", .string (Hex.text frame))]) ∧
      ∀ raw, (m ⟨.bytes, raw⟩).names = (m ⟨.colon, raw⟩).names ∧
        List.Forall₂ SameButColons (m ⟨.bytes, raw⟩).members (m ⟨.colon, raw⟩).members := by
  intro m
  refine ⟨fun o o' => ?_, fun h o o' => ?_, fun t hdecode => ?_⟩
  · rw [forward, forward]
    cases Uplink.decode frame filters with
    | ok u => exact ⟨rfl, rfl⟩
    | error d => exact ⟨rfl, rfl⟩
  · simp only [m, forward]
    cases hdecode : Uplink.decode frame filters with
    | ok u =>
      have hcalls : u.calls o = u.calls o' :=
        Uplink.calls_eq_of_ne_telemetry (fun t ht => h t (hdecode.trans (congrArg _ ht))) o o'
      simp only [Sinks.emit, hcalls]
    | error d => rfl
  · have hm (o : MessageOptions) : m o = { members := s.message.allMembers ++ t.members o } :=
      Telemetry.message_forward hdecode o s
    have hraw : t.raw = frame := Uplink.frame_eq_of_decode hdecode
    have hcolons (raw : Bool) :
        List.Forall₂ SameButColons (m ⟨.bytes, raw⟩).members (m ⟨.colon, raw⟩).members := by
      rw [hm, hm]
      exact List.rel_append (SameButColons.forall₂_refl _) (t.sameButColons_members raw)
    refine ⟨fun o => by rw [hm], fun format => ?_, fun raw => ⟨?_, hcolons raw⟩⟩
    · rw [hm, hm, t.members_rawPayload, hraw, List.append_assoc]
    · exact SameButColons.names_eq (hcolons raw)

/-- A telemetry frame with one station, and a foreign frame. -/
theorem forward_options_wifi :
    let frame : Bytes := [0x01, 0, 0, 0, 0, 0, 0, 0, 7, 0x41, 0, 0, 0, 9] ++
      [0x62, 12, 5, 0, 0, 0, 0xA1, 2, 3, 4, 5, 6, 7, 8]
    let t : Telemetry :=
      { devEui := ⟨7⟩, fcnt := 9, records := [.wifi 5 [0xA1, 2, 3, 4, 5, 6, 7, 8]], status := {},
        raw := frame }
    let m (o : MessageOptions) := (forward frame {} o {}).2.message
    let foreign (o : MessageOptions) := (forward [0x40] {} o {}).2.message
    Uplink.decode frame {} = .ok (.telemetry t) ∧
    (m ⟨.colon, true⟩).members = (m ⟨.colon, false⟩).members ++ [("payload", .string
      "0100000000000000074100000009620C05000000A102030405060708")] ∧
    List.Forall₂ SameButColons (m ⟨.bytes, false⟩).members (m ⟨.colon, false⟩).members ∧
    foreign ⟨.bytes, true⟩ = foreign ⟨.colon, false⟩ := by
  intro frame t m foreign
  have hdecode : Uplink.decode frame {} = .ok (.telemetry t) := by cbv
  have hforeign : Uplink.decode [0x40] {} = .ok (.raw [0x40]) := by cbv
  obtain ⟨-, hpayload, hcolons⟩ := (forward_options frame {} {}).2.2 t hdecode
  have htext : Hex.text frame = "0100000000000000074100000009620C05000000A102030405060708" := rfl
  exact ⟨hdecode, htext ▸ hpayload .colon, (hcolons false).2,
    (forward_options [0x40] {} {}).2.1 (fun t => by rw [hforeign]; simp) _ _⟩

end LoraGateway
