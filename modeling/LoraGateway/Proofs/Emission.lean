import LoraGateway.Emission
import LoraGateway.Proofs.Hexadecimal
import LoraGateway.Proofs.MacFrame
import LoraGateway.Proofs.MessageText

/-!
# What a message says of its frame

The message of a decoded frame starts with its kind and, if a whole telemetry frame is asked for,
holds every byte of the frame, be it field by field (`Uplink.frame_eq_of_allMembers_eq`). Since its
text determines its members, frames with the same text are the same (`forward_injective`).
-/

namespace LoraGateway

/-! ## Fields -/

namespace FieldValue

variable {m n : Nat} {i k : Int}

theorem json_ofNat (h : n < UInt32.size) : (ofNat n).json = .number (.int n) := by
  rw [ofNat, json, Int64.toInt_ofNat_of_lt (Nat.lt_trans h (by decide))]

theorem json_ofInt (hlow : Int64.minValue.toInt ≤ i) (hhigh : i ≤ Int64.maxValue.toInt) :
    (ofInt i).json = .number (.int i) := by
  rw [ofInt, json, Int64.toInt_ofInt_of_le hlow (Int.lt_of_le_of_lt hhigh (by decide))]

theorem ofNat_inj (hm : m < UInt32.size) (hn : n < UInt32.size)
    (h : (ofNat m).json = (ofNat n).json) : m = n := by
  rw [json_ofNat hm, json_ofNat hn, Json.number.injEq, Json.Number.int.injEq] at h
  exact Int.ofNat.inj h

theorem ofInt_inj (hi : Int64.minValue.toInt ≤ i ∧ i ≤ Int64.maxValue.toInt)
    (hk : Int64.minValue.toInt ≤ k ∧ k ≤ Int64.maxValue.toInt)
    (h : (ofInt i).json = (ofInt k).json) : i = k := by
  rwa [json_ofInt hi.1 hi.2, json_ofInt hk.1 hk.2, Json.number.injEq, Json.Number.int.injEq] at h

theorem eui_inj {e e' : Eui} (h : (eui e).json = (eui e').json) : e = e' :=
  Eui.text_injective (Json.string.inj h)

theorem bytes_inj {bs cs : Bytes} (h : (bytes bs).json = (bytes cs).json) : bs = cs :=
  Hex.text_injective (Json.string.inj h)

theorem uint8_inj {a b : UInt8} (h : (ofNat a.toNat).json = (ofNat b.toNat).json) : a = b :=
  have hlt (c : UInt8) : c.toNat < UInt32.size := Nat.lt_trans c.toNat_lt (by decide)
  UInt8.toNat_inj.1 (ofNat_inj (hlt a) (hlt b) h)

theorem uint16_inj {a b : UInt16} (h : (ofNat a.toNat).json = (ofNat b.toNat).json) : a = b :=
  have hlt (c : UInt16) : c.toNat < UInt32.size := Nat.lt_trans c.toNat_lt (by decide)
  UInt16.toNat_inj.1 (ofNat_inj (hlt a) (hlt b) h)

theorem int32_inj {a b : Int32} (h : (ofInt a.toInt).json = (ofInt b.toInt).json) : a = b :=
  have hbounds (c : Int32) : Int64.minValue.toInt ≤ c.toInt ∧ c.toInt ≤ Int64.maxValue.toInt :=
    ⟨Int.le_trans (by decide) c.minValue_le_toInt, Int.le_trans c.toInt_le (by decide)⟩
  Int32.toInt_inj.1 (ofInt_inj (hbounds a) (hbounds b) h)

end FieldValue

/-! ## Members -/

namespace Message

@[simp]
theorem applyAll_field_cons (members : List (String × Json)) (name : String) (v : FieldValue)
    (calls : List Call) : applyAll { members } (.field name v :: calls) =
      applyAll { members := members ++ [(name, v.json)] } calls := by
  rw [applyAll, List.foldl_cons, apply, field, endArray, allMembers, Option.map_none,
    Option.toList_none, List.append_nil]
  rfl

@[simp]
theorem allMembers_applyAll_nil (members : List (String × Json)) :
    (applyAll { members } []).allMembers = members :=
  List.append_nil members

/-- Complete members are never touched again. -/
theorem members_isPrefix_apply (m : Message) (c : Call) : m.members <+: (m.apply c).members := by
  have hall : m.members <+: m.allMembers := List.prefix_append ..
  cases c with
  | field name v => exact hall.trans (List.prefix_append ..)
  | beginArray name => exact hall
  | item v => exact List.prefix_refl _
  | endArray => exact hall

theorem members_isPrefix_applyAll (m : Message) (calls : List Call) :
    m.members <+: (m.applyAll calls).members := by
  induction calls generalizing m with
  | nil => exact List.prefix_refl _
  | cons c calls ih => exact (m.members_isPrefix_apply c).trans (ih _)

/-- A message that starts with a field has it as its first member. -/
theorem head?_allMembers_applyAll (name : String) (v : FieldValue) (calls : List Call) :
    (applyAll {} (.field name v :: calls)).allMembers.head? = some (name, v.json) := by
  obtain ⟨rest, hrest⟩ := members_isPrefix_applyAll (apply {} (.field name v)) calls
  have hmembers : (applyAll {} (.field name v :: calls)).members = (name, v.json) :: rest :=
    hrest.symm
  rw [allMembers, hmembers]
  rfl

/-- A message that ends with a field has it as its last member. -/
theorem getLast?_allMembers_applyAll (m : Message) (calls : List Call) (name : String)
    (v : FieldValue) :
    (m.applyAll (calls ++ [.field name v])).allMembers.getLast? = some (name, v.json) := by
  have hlast : (m.applyAll (calls ++ [.field name v])).allMembers =
      (m.applyAll calls).allMembers ++ [(name, v.json)] := by
    rw [applyAll, List.foldl_append]
    exact List.append_nil _
  rw [hlast, List.getLast?_concat]

end Message

theorem Kind.name_injective : Function.Injective Kind.name := by
  intro k k' h
  cases k <;> cases k' <;> first | rfl | exact absurd h (by decide)

/-- The four forms of a decoded frame. -/
inductive Family
  | join
  | data
  | foreign
  | telemetry

/-- The form of the frames that yield a kind. -/
def Kind.family : Kind → Family
  | .joinRequest | .rejoinRequest => .join
  | .dataUp | .dataDown => .data
  | .foreign => .foreign
  | .status | .gnss | .wifi | .gnssWifi => .telemetry

namespace Uplink

/-- The form of a decoded frame. -/
def family : Uplink → Family
  | .join _ => .join
  | .data _ => .data
  | .raw _ => .foreign
  | .telemetry _ => .telemetry

theorem family_kind (u : Uplink) : u.kind.family = u.family := by
  cases u with
  | join request => rw [kind]; split <;> rfl
  | data frame => rw [kind]; split <;> rfl
  | raw payload => rfl
  | telemetry report => rw [kind, Telemetry.kind]; split <;> rfl

/-- The message of a decoded frame alone. -/
def message (o : MessageOptions) (u : Uplink) : Message :=
  Message.applyAll {} (u.calls o)

/-- The bytes that a decoded frame came from. -/
def frame : Uplink → Bytes
  | .join request => request.encode
  | .data frame => frame.encode
  | .raw payload => payload
  | .telemetry report => report.raw

theorem head?_allMembers_message (o : MessageOptions) (u : Uplink) :
    (u.message o).allMembers.head? = some ("msgtype", .string u.kind.name) :=
  Message.head?_allMembers_applyAll ..

theorem kind_eq_of_allMembers_eq {o o' : MessageOptions} {u u' : Uplink}
    (h : (u.message o).allMembers = (u'.message o').allMembers) : u.kind = u'.kind := by
  have hhead := congrArg List.head? h
  rw [head?_allMembers_message, head?_allMembers_message, Option.some_inj, Prod.mk.injEq] at hhead
  exact Kind.name_injective (Json.string.inj hhead.2)

/-- Each field of a join request has a member that tells it. -/
theorem join_encode_eq {o o' : MessageOptions} {j j' : JoinRequest}
    (h : (message o (.join j)).allMembers = (message o' (.join j')).allMembers) :
    j.encode = j'.encode := by
  simp only [message, calls, JoinRequest.calls, Message.applyAll_field_cons,
    Message.allMembers_applyAll_nil, List.nil_append, List.cons_append, List.cons.injEq,
    Prod.mk.injEq, true_and, and_true] at h
  obtain ⟨-, hmhdr, hjoinEui, hdevEui, hdevNonce, hmic⟩ := h
  rw [JoinRequest.encode, JoinRequest.encode, FieldValue.uint8_inj hmhdr,
    FieldValue.eui_inj hjoinEui, FieldValue.eui_inj hdevEui, FieldValue.uint16_inj hdevNonce,
    FieldValue.int32_inj hmic]

/-- No port is written as -1, which is not the number of a port. -/
theorem portNumber_inj {d d' : DataFrame}
    (h : (FieldValue.ofInt d.portNumber).json = (FieldValue.ofInt d'.portNumber).json) :
    d.fport = d'.fport := by
  have hbounds (d : DataFrame) : Int64.minValue.toInt ≤ d.portNumber ∧
      d.portNumber ≤ Int64.maxValue.toInt := by
    rw [DataFrame.portNumber]
    split
    · next port _ =>
      have hport := port.toNat_lt
      have hlow : Int64.minValue.toInt ≤ 0 := by decide
      have hhigh : 255 ≤ Int64.maxValue.toInt := by decide
      omega
    · decide
  have hnumber : d.portNumber = d'.portNumber := FieldValue.ofInt_inj (hbounds d) (hbounds d') h
  rw [DataFrame.portNumber, DataFrame.portNumber] at hnumber
  match hport : d.fport, hport' : d'.fport with
  | none, none => rfl
  | some port, some port' =>
    rw [hport, hport'] at hnumber
    exact congrArg some (UInt8.toNat_inj.1 (Int.ofNat.inj hnumber))
  | none, some port' =>
    rw [hport, hport'] at hnumber
    exact absurd hnumber (by simp)
  | some port, none =>
    rw [hport, hport'] at hnumber
    exact absurd hnumber (by simp)

/-- Each field of a data frame has a member that tells it. -/
theorem data_encode_eq {o o' : MessageOptions} {d d' : DataFrame}
    (h : (message o (.data d)).allMembers = (message o' (.data d')).allMembers) :
    d.encode = d'.encode := by
  simp only [message, calls, DataFrame.calls, Message.applyAll_field_cons,
    Message.allMembers_applyAll_nil, List.nil_append, List.cons_append, List.cons.injEq,
    Prod.mk.injEq, true_and, and_true] at h
  obtain ⟨-, hmhdr, haddr, hfctrl, hfcnt, hfopts, hport, hpayload, hmic⟩ := h
  -- An address is told as a number with a sign, which determines its 32 bits.
  have hvalue : d.devAddr.value = d'.devAddr.value := by
    rw [← UInt32.toUInt32_toInt32 d.devAddr.value, FieldValue.int32_inj haddr,
      UInt32.toUInt32_toInt32]
  rw [DataFrame.encode, DataFrame.encode, FieldValue.uint8_inj hmhdr, hvalue,
    FieldValue.uint8_inj hfctrl, FieldValue.uint16_inj hfcnt, FieldValue.bytes_inj hfopts,
    portNumber_inj hport, FieldValue.bytes_inj hpayload, FieldValue.int32_inj hmic]

theorem raw_payload_eq {o o' : MessageOptions} {p p' : Bytes}
    (h : (message o (.raw p)).allMembers = (message o' (.raw p')).allMembers) : p = p' := by
  simp only [message, calls, Message.applyAll_field_cons, Message.allMembers_applyAll_nil,
    List.nil_append, List.cons_append, List.cons.injEq, Prod.mk.injEq, true_and, and_true] at h
  exact FieldValue.bytes_inj h.2

/-- A telemetry message that holds the whole frame ends with it. -/
theorem getLast?_allMembers_telemetry {o : MessageOptions} (ho : o.rawPayload = true)
    (t : Telemetry) : (message o (.telemetry t)).allMembers.getLast? =
      some ("payload", (FieldValue.bytes t.raw).json) := by
  rw [message, calls, Telemetry.calls, if_pos ho, ← List.cons_append]
  exact Message.getLast?_allMembers_applyAll ..

theorem telemetry_raw_eq {o o' : MessageOptions} {t t' : Telemetry} (ho : o.rawPayload = true)
    (ho' : o'.rawPayload = true)
    (h : (message o (.telemetry t)).allMembers = (message o' (.telemetry t')).allMembers) :
    t.raw = t'.raw := by
  have hlast := congrArg List.getLast? h
  rw [getLast?_allMembers_telemetry ho, getLast?_allMembers_telemetry ho', Option.some_inj,
    Prod.mk.injEq] at hlast
  exact FieldValue.bytes_inj hlast.2

/-- The members of a message determine the frame, whatever options it was written with, as long as
    telemetry was written with the whole frame. -/
theorem frame_eq_of_allMembers_eq {o o' : MessageOptions} {u u' : Uplink}
    (ho : o.rawPayload = true) (ho' : o'.rawPayload = true)
    (h : (u.message o).allMembers = (u'.message o').allMembers) : u.frame = u'.frame := by
  have hfamily : u.family = u'.family := by
    rw [← family_kind, ← family_kind, kind_eq_of_allMembers_eq h]
  -- Two frames of different families have messages of different kinds.
  cases u with
  | join j =>
    cases u' with
    | join j' => exact join_encode_eq h
    | _ => exact absurd hfamily nofun
  | data d =>
    cases u' with
    | data d' => exact data_encode_eq h
    | _ => exact absurd hfamily nofun
  | raw p =>
    cases u' with
    | raw p' => exact raw_payload_eq h
    | _ => exact absurd hfamily nofun
  | telemetry t =>
    cases u' with
    | telemetry t' => exact telemetry_raw_eq ho ho' h
    | _ => exact absurd hfamily nofun

/-- A decoded frame holds the bytes that it was decoded from. -/
theorem frame_eq_of_decode {f : Bytes} {filters : Filters} {u : Uplink}
    (h : decode f filters = .ok u) : u.frame = f := by
  have horigin := decode_eq_ok_iff.1 h
  cases u with
  | join j => exact (JoinRequest.decode_eq_ok_iff.1 horigin.2.2).1.symm
  | data d => exact (DataFrame.decode_eq_ok_iff.1 horigin.2.2).1.symm
  | raw p => exact horigin.2.2.2.symm
  | telemetry t =>
    have hdecode := horigin.2
    simp only [Telemetry.decode, Result.bind_eq_ok_iff, Result.pure_eq_ok_iff] at hdecode
    obtain ⟨devEui, -, fcnt, -, items, -, rfl⟩ := hdecode
    rfl

end Uplink

/-! ## Messages -/

/-- A frame that is forwarded decodes, and appends its calls to the message. -/
theorem forward_eq_ok_iff {frame : Bytes} {filters : Filters} {o : MessageOptions} {s : Sinks}
    {k : Kind} : (forward frame filters o s).1 = .ok k ↔
      ∃ u, Uplink.decode frame filters = .ok u ∧ u.kind = k ∧
        forward frame filters o s = (.ok k, s.emit o u) := by
  rw [forward]
  cases Uplink.decode frame filters with
  | ok u => simp
  | error d => simp

/-- Frames with the same message are the same, whatever filters they passed and whatever options the
    messages were written with, as long as telemetry was written with the whole frame. -/
theorem forward_injective {f₁ f₂ : Bytes} {filters₁ filters₂ : Filters} {o₁ o₂ : MessageOptions}
    {diagnostics₁ diagnostics₂ : String} {k₁ k₂ : Kind} (ho₁ : o₁.rawPayload = true)
    (ho₂ : o₂.rawPayload = true)
    (h₁ : (forward f₁ filters₁ o₁ { diagnostics := diagnostics₁ }).1 = .ok k₁)
    (h₂ : (forward f₂ filters₂ o₂ { diagnostics := diagnostics₂ }).1 = .ok k₂)
    (htext : (forward f₁ filters₁ o₁ { diagnostics := diagnostics₁ }).2.message.text =
      (forward f₂ filters₂ o₂ { diagnostics := diagnostics₂ }).2.message.text) : f₁ = f₂ := by
  obtain ⟨u₁, hu₁, -, hmessage₁⟩ := forward_eq_ok_iff.1 h₁
  obtain ⟨u₂, hu₂, -, hmessage₂⟩ := forward_eq_ok_iff.1 h₂
  rw [hmessage₁, hmessage₂] at htext
  -- Both messages started without members, so that they are those of the frames alone.
  have hmembers : (u₁.message o₁).allMembers = (u₂.message o₂).allMembers :=
    Message.allMembers_eq_of_text_eq (Message.isPlain_applyAll Message.isPlain_empty _)
      (Message.isPlain_applyAll Message.isPlain_empty _) htext
  rw [← Uplink.frame_eq_of_decode hu₁, ← Uplink.frame_eq_of_decode hu₂,
    Uplink.frame_eq_of_allMembers_eq ho₁ ho₂ hmembers]

/-- A join request, forwarded as it was received under no filter, and as it is written under a
    filter that admits its join server. -/
theorem forward_injective_join :
    let received : Bytes :=
      [0x00, 1, 0, 0, 0, 0, 0, 0, 0, 2, 0, 0, 0, 0, 0, 0, 0, 3, 0, 0xFF, 0xFF, 0xFF, 0xFF]
    let written : Bytes := JoinRequest.encode
      { rejoin := false, mhdr := 0, joinEui := ⟨1⟩, devEui := ⟨2⟩, devNonce := 3, mic := -1 }
    let filters : Filters := { joinEui := ⟨[(⟨1⟩, ⟨1⟩)]⟩, netId := .nothing }
    (forward received {} {} {}).1 = .ok .joinRequest ∧
      (forward written filters { macFormat := .colon } { diagnostics := "before\n" }).1 =
        .ok .joinRequest ∧
      received = written := by
  intro received written filters
  have h₁ : (forward received {} {} {}).1 = .ok .joinRequest := by decide
  have h₂ : (forward written filters { macFormat := .colon } { diagnostics := "before\n" }).1 =
      .ok .joinRequest := by decide
  refine ⟨h₁, h₂, forward_injective rfl rfl h₁ h₂ ?_⟩
  decide

end LoraGateway
