import LoraGateway.Config.Reader
import LoraGateway.Proofs.ConfiguredFilters
import LoraGateway.Proofs.JsonRoundTrip

/-!
# Reconfiguration

A running gateway takes its filters from a message, a starting one from its configuration. The two
name the fields differently and read them in different ways, the one from values, the other from
the structure of a text; but the same values describe the same filters, and what the one refuses
the other refuses for the same reason (`filtersOfText_eq_ofRouterMessage`).

Both come down to one reading of the two filter fields (`ofFilterFields?`), which
`ofSyntax?_of_value?_filterFields` and `ofRouterMessage_eq` show of the two sides.
-/

namespace LoraGateway

namespace Config

open Json (Syntax)

/-- The filters of the configuration that a text holds. -/
def filtersOfText (text : String) : Except Error Filters :=
  match ofText? text with
  | none => throw .json
  | some c => c.filters

/-- A configuration of filter fields only, of which each may be left out. -/
def filterFields (joinEui netId : Option Json) : Json :=
  .object ((joinEui.map fun v => ("join_eui_filter", v)).toList ++
    (netId.map fun v => ("netid_filter", v)).toList)

/-- A reconfiguring message of filter fields only, of which each may be left out. -/
def routerMessage (joinEui netId : Option Json) : Json :=
  .object ((joinEui.map fun v => ("JoinEui", v)).toList ++
    (netId.map fun v => ("NetID", v)).toList)

/-- The value of a field of a message; null counts as left out. -/
def present : Option Json → Option Json
  | some .null => none
  | v => v

/-- The configuration of two filter fields, of which each may be left out. -/
def ofFilterFields? (joinEui netId : Option Json) : Option Config := do
  let ranges ← joinEui.elim (some []) rangesOfJson?
  let netIds ← netId.elim (some none) optionalNetIdsOfJson?
  pure { joinEuiRanges := ranges, netIds }

/-! ## From a text -/

theorem plain_filterFields {depth : Nat} {joinEui netId : Option Json}
    (hranges : ∀ v ∈ joinEui, Json.Plain depth v) (hids : ∀ v ∈ netId, Json.Plain depth v) :
    Json.Plain (depth + 1) (filterFields joinEui netId) := by
  refine .object fun m hm => ?_
  simp only [List.mem_append, Option.mem_toList, Option.map_eq_some_iff] at hm
  rcases hm with ⟨v, hv, rfl⟩ | ⟨v, hv, rfl⟩
  · exact hranges v hv
  · exact hids v hv

theorem ofSyntax?_of_value?_filterFields {joinEui netId : Option Json} {s : Syntax}
    (h : s.value? = some (filterFields joinEui netId)) :
    ofSyntax? s = ofFilterFields? joinEui netId := by
  obtain ⟨members, rfl, hmembers⟩ := Syntax.value?_eq_object_iff.1 h
  -- The structure has the members of the value, each with its name and a structure of its value.
  cases joinEui with
  | none =>
    cases netId with
    | none =>
      obtain rfl := Syntax.memberValues?_eq_nil_iff.1 hmembers
      rfl
    | some n =>
      obtain ⟨netId, _, rfl, hnetId, hrest⟩ := Syntax.memberValues?_eq_cons_iff.1 hmembers
      obtain rfl := Syntax.memberValues?_eq_nil_iff.1 hrest
      simp [ofSyntax?, ofFilterFields?, Syntax.fields?, Syntax.field?, Syntax.orDefault, hnetId]
  | some j =>
    obtain ⟨ranges, _, rfl, hranges, hrest⟩ := Syntax.memberValues?_eq_cons_iff.1 hmembers
    cases netId with
    | none =>
      obtain rfl := Syntax.memberValues?_eq_nil_iff.1 hrest
      simp [ofSyntax?, ofFilterFields?, Syntax.fields?, Syntax.field?, Syntax.orDefault, hranges]
    | some n =>
      obtain ⟨netId, _, rfl, hnetId, hrest⟩ := Syntax.memberValues?_eq_cons_iff.1 hrest
      obtain rfl := Syntax.memberValues?_eq_nil_iff.1 hrest
      simp [ofSyntax?, ofFilterFields?, Syntax.fields?, Syntax.field?, Syntax.orDefault, hranges,
        hnetId]

theorem filtersOfText_of_standsFor {joinEui netId : Option Json} {text : String}
    (h : Json.StandsFor text (filterFields joinEui netId)) :
    filtersOfText text = (ofFilterFields? joinEui netId).elim (throw .json) filters := by
  obtain ⟨s, hsyntax, hvalue⟩ := Option.bind_eq_some_iff.1 h
  rw [filtersOfText, ofText?, hsyntax, Option.bind_some, ofSyntax?_of_value?_filterFields hvalue]
  cases ofFilterFields? joinEui netId with
  | none => rfl
  | some c => rfl

/-! ## From a message -/

theorem present_of_ne_null {v : Option Json} (h : v ≠ some .null) : present v = v := by
  rw [present]
  exact h

theorem presentMember?_eq (name : String) (msg : Json) :
    presentMember? name msg = present (msg.member? name) := by
  rw [presentMember?]
  cases msg.member? name with
  | none => rfl
  | some v => cases v <;> rfl

theorem routerField_eq {α : Type} (name : String) (read : Json → Option α) (default : α)
    (msg : Json) : routerField name read default msg =
      ((present (msg.member? name)).elim (some default) read).elim (throw .json) pure := by
  rw [routerField, presentMember?_eq]
  cases present (msg.member? name) with
  | none => rfl
  | some v =>
    cases hread : read v with
    | none => simp [hread]
    | some x => simp [hread]

/-- A list of networks that is null is none at all. -/
theorem elim_optionalNetIdsOfJson? (netId : Option Json) :
    netId.elim (some none) optionalNetIdsOfJson? =
      (present netId).elim (some none) fun v => (netIdsOfJson? v).map some := by
  cases netId with
  | none => rfl
  | some v => cases v <;> rfl

theorem ofFilterFields?_present (joinEui netId : Option Json) :
    ofFilterFields? joinEui (present netId) = ofFilterFields? joinEui netId := by
  have htwice : present (present netId) = present netId := by
    cases netId with
    | none => rfl
    | some v => cases v <;> rfl
  rw [ofFilterFields?, ofFilterFields?, elim_optionalNetIdsOfJson?, elim_optionalNetIdsOfJson?,
    htwice]

theorem ofRouterMessage_eq (msg : Json) : ofRouterMessage msg =
    (ofFilterFields? (present (msg.member? "JoinEui")) (msg.member? "NetID")).elim
      (throw .json) filters := by
  rw [ofRouterMessage, routerField_eq, routerField_eq, ofFilterFields?, elim_optionalNetIdsOfJson?]
  cases (present (msg.member? "JoinEui")).elim (some []) rangesOfJson? with
  | none => rfl
  | some ranges =>
    cases (present (msg.member? "NetID")).elim (some none) fun v => (netIdsOfJson? v).map some with
    | none => rfl
    | some netIds => rfl

theorem member?_routerMessage (joinEui netId : Option Json) :
    (routerMessage joinEui netId).member? "JoinEui" = joinEui ∧
    (routerMessage joinEui netId).member? "NetID" = netId := by
  cases joinEui <;> cases netId <;> exact ⟨rfl, rfl⟩

theorem ofRouterMessage_routerMessage (joinEui netId : Option Json) :
    ofRouterMessage (routerMessage joinEui netId) =
      (ofFilterFields? (present joinEui) netId).elim (throw .json) filters := by
  rw [ofRouterMessage_eq, (member?_routerMessage _ _).1, (member?_routerMessage _ _).2]

theorem member?_eq_none {msg : Json} (h : ∀ members, msg ≠ .object members) (name : String) :
    msg.member? name = none := by
  cases msg with
  | object members => exact absurd rfl (h members)
  | _ => rfl

/-- Filters are refused for a text that is no identifier, or for a number that is no network. -/
theorem filters_eq_error {c : Config} {e : Error} (h : c.filters = .error e) :
    (∃ s, e = .invalidEui s ∧ Eui.ofText? s = none) ∨
    ∃ n, e = .invalidNetId n ∧ NetIdFilter.count ≤ n.toNat := by
  obtain ⟨s, hs, rfl⟩ | ⟨-, n, hn, rfl⟩ := (filters_eq_error_iff c e).1 h
  · have hbad := List.find?_some hs
    exact .inl ⟨s, rfl, Option.isNone_iff_eq_none.1 hbad⟩
  · have hbad := List.find?_some hn
    exact .inr ⟨n, rfl, of_decide_eq_true hbad⟩

/-- A gateway that is reconfigured by a message takes the same filters as one that starts with the
    same fields in its configuration, and refuses them for the same reason. A field that the message
    leaves out or that is null is one that the configuration leaves out; a message that is no object
    opens both filters. -/
theorem filtersOfText_eq_ofRouterMessage :
    (∀ (joinEui netId : Option Json) (text : String), joinEui ≠ some .null →
      Json.StandsFor text (filterFields joinEui netId) →
      filtersOfText text = ofRouterMessage (routerMessage joinEui netId)) ∧
    (∀ (joinEui netId : Option Json) (text : String),
      Json.StandsFor text (filterFields (present joinEui) (present netId)) →
      filtersOfText text = ofRouterMessage (routerMessage joinEui netId)) ∧
    (∀ msg : Json, (∀ members, msg ≠ .object members) → ofRouterMessage msg = .ok {}) ∧
    ∀ (msg : Json) (e : Error), ofRouterMessage msg = .error e →
      e = .json ∨ (∃ s, e = .invalidEui s ∧ Eui.ofText? s = none) ∨
      ∃ n, e = .invalidNetId n ∧ NetIdFilter.count ≤ n.toNat := by
  refine ⟨fun joinEui netId text hnull h => ?given, fun joinEui netId text h => ?leftOut,
    fun msg h => ?noObject, fun msg e h => ?refused⟩
  case given =>
    rw [filtersOfText_of_standsFor h, ofRouterMessage_routerMessage, present_of_ne_null hnull]
  case leftOut =>
    rw [filtersOfText_of_standsFor h, ofRouterMessage_routerMessage, ofFilterFields?_present]
  case noObject =>
    rw [ofRouterMessage_eq, member?_eq_none h, member?_eq_none h]
    rfl
  case refused =>
    rw [ofRouterMessage_eq] at h
    cases hc : ofFilterFields? (present (msg.member? "JoinEui")) (msg.member? "NetID") with
    | none =>
      rw [hc] at h
      cases h
      exact .inl rfl
    | some c =>
      rw [hc] at h
      exact .inr (filters_eq_error h)

set_option maxRecDepth 2000 in
/-- A range from a text to the greatest number, which both take; networks of which the last is one
    too many, which both refuse; and a message that is no object. -/
theorem filtersOfText_eq_ofRouterMessage_greatest :
    let bounds : Json := .array [.string "70B3d57ed0000000", .number (.int 0xFFFFFFFFFFFFFFFF)]
    let networks : Json := .array [.number (.int 127), .number (.int 128)]
    let ranges := "\"join_eui_filter\":[[\"70B3d57ed0000000\",18446744073709551615]]"
    let file := "\x7b" ++ ranges ++ ",\"netid_filter\":null\x7d"
    filtersOfText file = ofRouterMessage (routerMessage (some (.array [bounds])) (some .null)) ∧
    filtersOfText file =
      .ok { joinEui := { ranges := [(⟨0x70B3D57ED0000000⟩, ⟨0xFFFFFFFFFFFFFFFF⟩)] } } ∧
    filtersOfText "\x7b\"netid_filter\":[127,128]\x7d" =
      ofRouterMessage (routerMessage (some .null) (some networks)) ∧
    filtersOfText "\x7b\"netid_filter\":[127,128]\x7d" = .error (.invalidNetId 128) ∧
    ofRouterMessage bounds = .ok {} := by
  intro bounds networks ranges file
  have hbounds : Json.Plain 1 bounds := by
    refine .array ?_
    simp only [List.forall_mem_cons]
    exact ⟨.string _, .int (by decide) (by decide), nofun⟩
  have hnetworks : Json.Plain 1 networks := by
    refine .array ?_
    simp only [List.forall_mem_cons]
    exact ⟨.int (by decide) (by decide), .int (by decide) (by decide), nofun⟩
  -- The files are the texts of their values, so that they need not be parsed here.
  have hfile : Json.StandsFor file (filterFields (some (.array [bounds])) (some .null)) := by
    have htext : (filterFields (some (.array [bounds])) (some .null)).text = file := by decide
    rw [← htext]
    have hplain : Json.Plain 3 (filterFields (some (.array [bounds])) (some .null)) :=
      plain_filterFields (by simpa using .array (by simpa using hbounds)) (by simpa using .null)
    exact hplain.standsFor_text
  have hrefusedFile : Json.StandsFor "\x7b\"netid_filter\":[127,128]\x7d"
      (filterFields none (some networks)) := by
    have htext : (filterFields none (some networks)).text = "\x7b\"netid_filter\":[127,128]\x7d" := by
      decide
    rw [← htext]
    exact (plain_filterFields (by simp) (by simpa using hnetworks)).standsFor_text
  have htaken := filtersOfText_eq_ofRouterMessage.1 (some (.array [bounds])) (some .null) file
    (by simp [bounds]) hfile
  have hrefused := filtersOfText_eq_ofRouterMessage.2.1 (some .null) (some networks) _ hrefusedFile
  exact ⟨htaken, htaken.trans rfl, hrefused, hrefused.trans rfl,
    filtersOfText_eq_ofRouterMessage.2.2.1 bounds nofun⟩

end Config

end LoraGateway
