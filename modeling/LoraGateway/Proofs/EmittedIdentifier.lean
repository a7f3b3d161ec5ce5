import LoraGateway.Proofs.Accumulation
import LoraGateway.Proofs.Reconfiguration
import LoraGateway.Proofs.SavedConfig
import LoraGateway.Proofs.Screening

/-!
# Identifiers that are fed back

The message of a join request names its join server in text. Such texts can be fed back as the
ranges of a filter, and mean there what they were written for:

* `all_joinEui_forward`: what the message of a join request says of its join server;
* `Config.ofRouterMessage_rangesMessage`: ranges of written identifiers make a filter of the ranges;
* `Uplink.decode_under_ranges`: what is decoded under ranges, told by what is decoded without any;
* `decode_under_reported`: the filters that reported join servers make.
-/

namespace LoraGateway

/-- The message that sets the ranges of admitted join servers, their bounds given as texts. -/
def rangesMessage (ranges : List (String × String)) : Json :=
  Config.routerMessage (some (.array (ranges.map fun r => .array [.string r.1, .string r.2]))) none

/-- A join request that was forwarded, with the text that its message gives for the join server. -/
structure ReportedJoin where
  frame : Bytes
  request : JoinRequest
  options : MessageOptions
  /-- What it was written behind. -/
  earlier : Sinks
  text : String
  decoded : Uplink.decode frame {} = .ok (.join request)
  written : (forward frame {} options earlier).2.message.all "JoinEui" =
    earlier.message.endArray.all "JoinEui" ++ [.string text]

/-! ## What is reported -/

/-- The message of a join request names its join server once, in its written form. -/
theorem JoinRequest.all_joinEui_message (o : MessageOptions) (j : JoinRequest) :
    ((Uplink.join j).message o).all "JoinEui" = [.string j.joinEui.text] := by
  simp [Uplink.message, Uplink.calls, JoinRequest.calls, Message.all, Message.applyAll,
    Message.apply, Message.field, Message.endArray, Message.allMembers, FieldValue.json]

theorem all_joinEui_forward {frame : Bytes} {j : JoinRequest}
    (h : Uplink.decode frame {} = .ok (.join j)) (o : MessageOptions) (s : Sinks) :
    (forward frame {} o s).2.message.all "JoinEui" =
      s.message.endArray.all "JoinEui" ++ [.string j.joinEui.text] := by
  rw [Uplink.all_forward h, JoinRequest.all_joinEui_message]

namespace ReportedJoin

/-- The join server of a request. -/
abbrev joinEui (r : ReportedJoin) : Eui :=
  r.request.joinEui

theorem text_eq (r : ReportedJoin) : r.text = r.joinEui.text := by
  have h := r.written
  rw [all_joinEui_forward r.decoded, List.append_cancel_left_eq] at h
  simpa using h.symm

end ReportedJoin

/-! ## What it means as a filter -/

namespace Config

/-- The configuration of ranges whose bounds are given as texts. -/
theorem ofFilterFields?_texts (ranges : List (String × String)) :
    ofFilterFields? (some (.array (ranges.map fun r => .array [.string r.1, .string r.2]))) none =
      some { joinEuiRanges := ranges.map fun r => (.text r.1, .text r.2) } := by
  have hranges := rangesOfJson?_json (ranges.map fun r => (.text r.1, .text r.2))
  rw [List.map_map] at hranges
  have hread : rangesOfJson? (.array (ranges.map fun r => .array [.string r.1, .string r.2])) =
      some (ranges.map fun r => (.text r.1, .text r.2)) := hranges
  rw [ofFilterFields?, Option.elim_some, hread]
  rfl

theorem mapM_range_texts (ranges : List (Eui × Eui)) :
    (ranges.map fun r => (EuiEntry.text r.1.text, EuiEntry.text r.2.text)).mapM range =
      .ok ranges := by
  have hentry (e : Eui) : (EuiEntry.text e.text).eui = .ok e := by
    rw [EuiEntry.eui, e.ofText?_text]
    rfl
  induction ranges with
  | nil => rfl
  | cons r ranges ih =>
    rw [List.map_cons, List.mapM_cons, ih, range, hentry, hentry]
    rfl

/-- Ranges of identifiers in their written form make the filter of the ranges. -/
theorem ofRouterMessage_rangesMessage (ranges : List (Eui × Eui)) :
    ofRouterMessage (rangesMessage (ranges.map fun r => (r.1.text, r.2.text))) =
      .ok { joinEui := { ranges } } := by
  have htexts : (ranges.map fun r => (r.1.text, r.2.text)).map
      (fun r => (EuiEntry.text r.1, EuiEntry.text r.2)) =
      ranges.map fun r => (.text r.1.text, .text r.2.text) :=
    List.map_map
  rw [rangesMessage, ofRouterMessage_routerMessage, present_of_ne_null (by simp),
    ofFilterFields?_texts, Option.elim_some, filters, htexts, mapM_range_texts]
  rfl

end Config

/-- Ranges drop the join requests outside all of them, unless there are none, and nothing else. -/
theorem Uplink.decode_under_ranges (ranges : List (Eui × Eui)) (frame : Bytes) :
    match decode frame {} with
    | .ok (.join k) => decode frame { joinEui := { ranges } } =
      if ranges = [] ∨ ∃ r ∈ ranges, r.1.value ≤ k.joinEui.value ∧ k.joinEui.value ≤ r.2.value then
        .ok (.join k)
      else .error (.filtered (.joinEui k.joinEui))
    | result => decode frame { joinEui := { ranges } } = result := by
  rcases decode_cases frame with ⟨fault, h⟩ | ⟨u, h⟩
  · rw [h, h]
  · rw [h, h, Filters.screen_default]
    cases u with
    | join k => simp only [Filters.screen, JoinEuiFilter.admits_iff]
    | data d => exact if_pos (NetIdFilter.admits_all d.devAddr)
    | raw payload => rfl
    | telemetry report => rfl

/-- The range of one identifier admits the join requests of that identifier. -/
theorem Uplink.decode_under_single {frame : Bytes} {k : JoinRequest}
    (h : decode frame {} = .ok (.join k)) (e : Eui) :
    decode frame { joinEui := { ranges := [(e, e)] } } =
      if k.joinEui = e then .ok (.join k) else .error (.filtered (.joinEui k.joinEui)) := by
  have hbetween : e.value ≤ k.joinEui.value ∧ k.joinEui.value ≤ e.value ↔ k.joinEui = e := by
    rw [← UInt64.le_antisymm_iff]
    exact ⟨fun hvalue => (congrArg Eui.mk hvalue).symm, fun heq => heq ▸ rfl⟩
  have hunder := decode_under_ranges [(e, e)] frame
  rw [h] at hunder
  simpa [hbetween] using hunder

/-- The text that a message gives for a join server can be fed back as a range, which admits this
    join server and no other. Ranges between such texts, the lower bound first, admit the join
    requests that lie in one of them; without any range, all are admitted. All other frames decode
    as without filters. -/
theorem decode_under_reported :
    (∀ (frame : Bytes) (j : JoinRequest) (o : MessageOptions) (s : Sinks),
      Uplink.decode frame {} = .ok (.join j) →
      ∃ text filters,
        (forward frame {} o s).2.message.all "JoinEui" =
          s.message.endArray.all "JoinEui" ++ [.string text] ∧
        Config.ofRouterMessage (rangesMessage [(text, text)]) = .ok filters ∧
        Uplink.decode frame filters = .ok (.join j) ∧
        ∀ frame' k, Uplink.decode frame' {} = .ok (.join k) →
          ((∃ u, Uplink.decode frame' filters = .ok u) ↔ k.joinEui = j.joinEui)) ∧
    ∀ pairs : List (ReportedJoin × ReportedJoin), ∃ filters,
      Config.ofRouterMessage (rangesMessage (pairs.map fun p => (p.1.text, p.2.text))) =
        .ok filters ∧
      ∀ frame, match Uplink.decode frame {} with
        | .ok (.join k) => Uplink.decode frame filters =
          if pairs = [] ∨ ∃ p ∈ pairs, p.1.joinEui.value ≤ k.joinEui.value ∧
              k.joinEui.value ≤ p.2.joinEui.value then
            .ok (.join k)
          else .error (.filtered (.joinEui k.joinEui))
        | result => Uplink.decode frame filters = result := by
  constructor
  · -- Written and read back, the identifier is the range from itself to itself.
    intro frame j o s h
    refine ⟨j.joinEui.text, { joinEui := { ranges := [(j.joinEui, j.joinEui)] } },
      all_joinEui_forward h o s, Config.ofRouterMessage_rangesMessage [(j.joinEui, j.joinEui)], ?_,
      fun frame' k hk => ?_⟩
    · rw [Uplink.decode_under_single h, if_pos rfl]
    · rw [Uplink.decode_under_single hk]
      split_ifs with heq <;> simp [heq]
  · -- Each text is the written form of its join server, and thus gives this very bound.
    intro pairs
    have htexts : (pairs.map fun p => (p.1.text, p.2.text)) =
        (pairs.map fun p => (p.1.joinEui, p.2.joinEui)).map fun r => (r.1.text, r.2.text) := by
      simp [ReportedJoin.text_eq]
    refine ⟨{ joinEui := { ranges := pairs.map fun p => (p.1.joinEui, p.2.joinEui) } }, ?_,
      fun frame => ?_⟩
    · rw [htexts, Config.ofRouterMessage_rangesMessage]
    · have hunder :=
        Uplink.decode_under_ranges (pairs.map fun p => (p.1.joinEui, p.2.joinEui)) frame
      simpa only [List.map_eq_nil_iff, List.mem_map, exists_exists_and_eq_and] using hunder

/-- Two requests to join servers one apart: the text of the first drops the second, and as bounds of
    a range with the greater one first, the two texts drop both. -/
theorem decode_under_reported_next :
    let frame : Bytes :=
      [0x00, 0xFF, 2, 3, 4, 5, 6, 7, 0xF8, 9, 0, 0, 0, 0, 0, 0, 0, 1, 0, 0xFF, 0xFF, 0xFF, 0xFF]
    let next : Bytes :=
      [0x00, 0x00, 3, 3, 4, 5, 6, 7, 0xF8, 9, 0, 0, 0, 0, 0, 0, 0, 1, 0, 0xFF, 0xFF, 0xFF, 0xFF]
    let text := "F8-07-06-05-04-03-02-FF"
    (forward frame {} {} {}).2.message.all "JoinEui" = [.string text] ∧
    (∃ filters, Config.ofRouterMessage (rangesMessage [(text, text)]) = .ok filters ∧
      (∃ u, Uplink.decode frame filters = .ok u) ∧ ¬∃ u, Uplink.decode next filters = .ok u) ∧
    ∃ filters, Config.ofRouterMessage (rangesMessage [("F8-07-06-05-04-03-03-00", text)]) =
        .ok filters ∧
      ¬(∃ u, Uplink.decode frame filters = .ok u) ∧ ¬∃ u, Uplink.decode next filters = .ok u := by
  intro frame next text
  let j : JoinRequest := ⟨false, 0, ⟨0xF8070605040302FF⟩, ⟨9⟩, 1, -1⟩
  let k : JoinRequest := ⟨false, 0, ⟨0xF807060504030300⟩, ⟨9⟩, 1, -1⟩
  have hframe : Uplink.decode frame {} = .ok (.join j) := by decide
  have hnext : Uplink.decode next {} = .ok (.join k) := by decide
  have hj : j.joinEui.text = text := by decide
  have hk : k.joinEui.text = "F8-07-06-05-04-03-03-00" := by decide
  have hwritten := all_joinEui_forward hframe {} {}
  refine ⟨hwritten.trans (by rw [hj]; rfl), ?_, ?_⟩
  · obtain ⟨given, filters, hgiven, hfilters, hself, hother⟩ :=
      decode_under_reported.1 frame j {} {} hframe
    obtain rfl : given = text := by
      rw [hwritten, List.append_cancel_left_eq, hj] at hgiven
      simpa using hgiven.symm
    refine ⟨filters, hfilters, ⟨.join j, hself⟩, ?_⟩
    rw [hother next k hnext]
    decide
  · obtain ⟨filters, hfilters, hunder⟩ := decode_under_reported.2
      [(⟨next, k, {}, {}, _, hnext, all_joinEui_forward hnext {} {}⟩,
        ⟨frame, j, {}, {}, _, hframe, hwritten⟩)]
    refine ⟨filters, by rw [← hj, ← hk]; exact hfilters, ?_, ?_⟩
    · have h := hunder frame
      rw [hframe] at h
      rw [h, if_neg (by simp [j, k])]
      nofun
    · have h := hunder next
      rw [hnext] at h
      rw [h, if_neg (by simp [j, k])]
      nofun

/-- Without any range there is no range to lie in, but every join request is admitted. -/
theorem not_decode_iff_exists_range :
    ¬∀ (pairs : List (ReportedJoin × ReportedJoin)) (filters : Filters),
      Config.ofRouterMessage (rangesMessage (pairs.map fun p => (p.1.text, p.2.text))) =
        .ok filters →
      ∀ frame k, Uplink.decode frame {} = .ok (.join k) →
        ((∃ u, Uplink.decode frame filters = .ok u) ↔
          ∃ p ∈ pairs, p.1.joinEui.value ≤ k.joinEui.value ∧
            k.joinEui.value ≤ p.2.joinEui.value) := by
  intro h
  let frame : Bytes := [0x00, 1, 0, 0, 0, 0, 0, 0, 0, 2, 0, 0, 0, 0, 0, 0, 0, 3, 0, 4, 0, 0, 0]
  let k : JoinRequest := ⟨false, 0, ⟨1⟩, ⟨2⟩, 3, 4⟩
  have hframe : Uplink.decode frame {} = .ok (.join k) := by decide
  obtain ⟨p, hp, -⟩ := (h [] {} rfl frame k hframe).1 ⟨.join k, hframe⟩
  exact List.not_mem_nil hp

end LoraGateway
