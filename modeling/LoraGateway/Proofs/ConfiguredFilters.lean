import LoraGateway.Config.Basic
import LoraGateway.Proofs.IdentifierFilter
import LoraGateway.Proofs.Result

/-!
# The filters of a configuration

What a configuration admits, read off its entries. Making the filters fails for the first text that
is no identifier, and only without such a text for the first number that is no network
(`Config.fault?_filters`). If it succeeds, then each verdict is a question for the entries, in which
neither their order nor their number occurs (`Config.admits_joinEui_iff`, `Config.admits_netId_iff`).
The two filters differ in what nothing means: without a range every join server is admitted, with an
empty list no network is.

* `Config.filters_of_entries`: which filters a configuration has, or why it has none.
-/

namespace LoraGateway

open Result

/-- What an entry gives as a text. -/
def EuiEntry.texts : EuiEntry → List String
  | .number _ => []
  | .text s => [s]

namespace Config

/-- The identifiers that are given as texts, the lower one of each range first. -/
def euiTexts (c : Config) : List String :=
  c.joinEuiRanges.flatMap fun r => r.1.texts ++ r.2.texts

/-- The listed networks. -/
def listedNetIds (c : Config) : List UInt64 :=
  c.netIds.getD []

/-- The filter of networks that a configuration describes. -/
def netIdFilter (c : Config) : Except Error NetIdFilter :=
  match c.netIds with
  | none => pure .all
  | some ids => NetIdFilter.allowOnly <$> ids.mapM netId

/-- The configurations have the same filter entries, in whatever order and number, and both have a
    list of networks or both have none. -/
structure SameEntries (c c' : Config) : Prop where
  ranges : ∀ r, r ∈ c.joinEuiRanges ↔ r ∈ c'.joinEuiRanges
  listed : c.netIds = none ↔ c'.netIds = none
  netIds : ∀ n, n ∈ c.listedNetIds ↔ n ∈ c'.listedNetIds

variable {c c' : Config} {f : Filters} {e : Error}

/-! ## Faults -/

theorem fault?_eui (entry : EuiEntry) : fault? entry.eui =
    (entry.texts.find? fun s => (Eui.ofText? s).isNone).map .invalidEui := by
  cases entry with
  | number n => rfl
  | text s =>
    rw [EuiEntry.eui, EuiEntry.texts, List.find?_singleton]
    cases Eui.ofText? s with
    | none => rfl
    | some e => rfl

theorem fault?_range (r : EuiEntry × EuiEntry) : fault? (range r) =
    ((r.1.texts ++ r.2.texts).find? fun s => (Eui.ofText? s).isNone).map .invalidEui := by
  have hhi (lo : Eui) : fault? (r.2.eui >>= fun hi => pure (lo, hi)) = fault? r.2.eui :=
    fault?_bind_pure ..
  rw [range, fault?_bind hhi, fault?_eui, fault?_eui, List.find?_append, Option.map_or]

theorem fault?_netId (n : UInt64) : fault? (netId n) =
    ([n].find? fun n => NetIdFilter.count ≤ n.toNat).map .invalidNetId := by
  rw [netId, List.find?_singleton]
  by_cases hn : n.toNat < NetIdFilter.count
  · rw [if_pos hn, if_neg (by simpa using hn)]
    rfl
  · rw [if_neg hn, if_pos (by simpa using hn)]
    rfl

theorem fault?_netIdFilter (c : Config) : fault? c.netIdFilter =
    (c.listedNetIds.find? fun n => NetIdFilter.count ≤ n.toNat).map .invalidNetId := by
  rw [netIdFilter, listedNetIds]
  cases c.netIds with
  | none => rfl
  | some ids =>
    have hids := fault?_mapM fault?_netId ids
    rw [List.flatMap_singleton'] at hids
    rw [Option.getD_some, ← hids]
    dsimp only
    rw [map_eq_pure_bind, fault?_bind_pure]

theorem filters_eq (c : Config) : c.filters = c.joinEuiRanges.mapM range >>= fun ranges =>
    c.netIdFilter >>= fun netId => pure { joinEui := { ranges }, netId } := by
  rw [filters, netIdFilter]
  cases c.netIds with
  | none => rfl
  | some ids => rfl

/-- The filters fail for the first text that is no identifier, and without such a text for the first
    number that is no network. -/
theorem fault?_filters (c : Config) : fault? c.filters =
    ((c.euiTexts.find? fun s => (Eui.ofText? s).isNone).map Error.invalidEui).or
      ((c.listedNetIds.find? fun n => NetIdFilter.count ≤ n.toNat).map .invalidNetId) := by
  have hnetId (ranges : List (Eui × Eui)) : fault? (c.netIdFilter >>= fun netId =>
      pure { joinEui := { ranges }, netId : Filters }) = fault? c.netIdFilter :=
    fault?_bind_pure ..
  rw [filters_eq, fault?_bind hnetId, fault?_mapM fault?_range, fault?_netIdFilter, euiTexts]

/-- The filters can be made if and only if there is no fault in any entry. -/
theorem exists_filters_eq_ok_iff (c : Config) : (∃ f, c.filters = .ok f) ↔
    (∀ s ∈ c.euiTexts, (Eui.ofText? s).isSome) ∧
    ∀ n ∈ c.listedNetIds, n.toNat < NetIdFilter.count := by
  rw [← fault?_eq_none_iff, fault?_filters, Option.or_eq_none_iff, Option.map_eq_none_iff,
    Option.map_eq_none_iff, List.find?_eq_none, List.find?_eq_none]
  simp only [decide_eq_true_eq, Nat.not_le, Bool.not_eq_true, Option.isNone_eq_false_iff]

theorem filters_eq_error_iff (c : Config) (e : Error) : c.filters = .error e ↔
    (∃ s, c.euiTexts.find? (fun s => (Eui.ofText? s).isNone) = some s ∧ e = .invalidEui s) ∨
    (∀ s ∈ c.euiTexts, (Eui.ofText? s).isSome) ∧
      ∃ n, c.listedNetIds.find? (fun n => NetIdFilter.count ≤ n.toNat) = some n ∧
        e = .invalidNetId n := by
  rw [← fault?_eq_some_iff, fault?_filters, Option.or_eq_some_iff, Option.map_eq_some_iff,
    Option.map_eq_some_iff, Option.map_eq_none_iff, List.find?_eq_none]
  simp only [Bool.not_eq_true, Option.isNone_eq_false_iff, eq_comm (b := e)]

/-! ## Verdicts -/

theorem range_eq_ok_iff {r : EuiEntry × EuiEntry} {lo hi : Eui} :
    range r = .ok (lo, hi) ↔ r.1.eui = .ok lo ∧ r.2.eui = .ok hi := by
  simp only [range, bind_eq_ok_iff, pure_eq_ok_iff, Prod.mk.injEq]
  constructor
  · rintro ⟨lo, hlo, hi, hhi, rfl, rfl⟩
    exact ⟨hlo, hhi⟩
  · rintro ⟨hlo, hhi⟩
    exact ⟨lo, hlo, hi, hhi, rfl, rfl⟩

theorem netId_eq_ok_iff {n : UInt64} {id : UInt8} :
    netId n = .ok id ↔ n.toNat < NetIdFilter.count ∧ n.toUInt8 = id := by
  rw [netId]
  by_cases hn : n.toNat < NetIdFilter.count
  · rw [if_pos hn, pure_eq_ok_iff, and_iff_right hn]
  · rw [if_neg hn]
    exact iff_of_false throw_ne_ok fun h => hn h.1

theorem filters_eq_ok_iff : c.filters = .ok f ↔
    c.joinEuiRanges.mapM range = .ok f.joinEui.ranges ∧ c.netIdFilter = .ok f.netId := by
  simp only [filters_eq, bind_eq_ok_iff, pure_eq_ok_iff]
  constructor
  · rintro ⟨ranges, hranges, netId, hnetId, rfl⟩
    exact ⟨hranges, hnetId⟩
  · rintro ⟨hranges, hnetId⟩
    exact ⟨_, hranges, _, hnetId, rfl⟩

/-- A join server is admitted if there is no range, or if it lies between the entries of one. -/
theorem admits_joinEui_iff (h : c.filters = .ok f) (e : Eui) : f.joinEui.admits e = true ↔
    c.joinEuiRanges = [] ∨ ∃ r ∈ c.joinEuiRanges, ∃ lo hi, r.1.eui = .ok lo ∧ r.2.eui = .ok hi ∧
      lo.value ≤ e.value ∧ e.value ≤ hi.value := by
  obtain ⟨hranges, -⟩ := filters_eq_ok_iff.1 h
  rw [JoinEuiFilter.admits_iff, eq_nil_iff_of_mapM_eq_ok hranges]
  refine or_congr_right ⟨?_, ?_⟩
  · rintro ⟨⟨lo, hi⟩, hmem, hlo, hhi⟩
    obtain ⟨r, hr, hrange⟩ := (mem_iff_of_mapM_eq_ok hranges _).1 hmem
    obtain ⟨hloEntry, hhiEntry⟩ := range_eq_ok_iff.1 hrange
    exact ⟨r, hr, lo, hi, hloEntry, hhiEntry, hlo, hhi⟩
  · rintro ⟨r, hr, lo, hi, hloEntry, hhiEntry, hlo, hhi⟩
    have hrange := range_eq_ok_iff.2 ⟨hloEntry, hhiEntry⟩
    exact ⟨(lo, hi), (mem_iff_of_mapM_eq_ok hranges _).2 ⟨r, hr, hrange⟩, hlo, hhi⟩

/-- A device address is admitted if there is no list of networks, or if its network is listed. -/
theorem admits_netId_iff (h : c.filters = .ok f) (a : DevAddr) : f.netId.admits a = true ↔
    c.netIds = none ∨ ∃ n ∈ c.listedNetIds, n.toNat = a.value.toNat / 2 ^ 25 := by
  obtain ⟨-, hnetId⟩ := filters_eq_ok_iff.1 h
  rw [netIdFilter] at hnetId
  rw [listedNetIds]
  cases hids : c.netIds with
  | none =>
    rw [hids] at hnetId
    rw [← pure_eq_ok_iff.1 hnetId]
    simp [NetIdFilter.admits_all]
  | some ids =>
    rw [hids] at hnetId
    obtain ⟨networks, hnetworks, hfilter⟩ := map_eq_ok_iff.1 hnetId
    rw [← hfilter, NetIdFilter.admits_allowOnly]
    simp only [reduceCtorEq, false_or, Option.getD_some]
    have hlow (n : UInt64) (hn : n.toNat < 128) : n.toUInt8.toNat % 128 = n.toNat := by
      rw [UInt64.toNat_toUInt8]
      omega
    constructor
    · rintro ⟨id, hmem, hid⟩
      obtain ⟨n, hn, hnetId⟩ := (mem_iff_of_mapM_eq_ok hnetworks id).1 hmem
      obtain ⟨hlt, rfl⟩ := netId_eq_ok_iff.1 hnetId
      exact ⟨n, hn, (hlow n hlt).symm.trans hid⟩
    · rintro ⟨n, hn, hvalue⟩
      have hlt : n.toNat < NetIdFilter.count := ((exists_filters_eq_ok_iff c).1 ⟨f, h⟩).2 n (by
        rwa [listedNetIds, hids])
      refine ⟨n.toUInt8, (mem_iff_of_mapM_eq_ok hnetworks _).2 ⟨n, hn, ?_⟩,
        (hlow n hlt).trans hvalue⟩
      exact netId_eq_ok_iff.2 ⟨hlt, rfl⟩

/-! ## Order and repetition -/

namespace SameEntries

theorem mem_euiTexts_iff (h : c.SameEntries c') (s : String) : s ∈ c.euiTexts ↔ s ∈ c'.euiTexts := by
  simp only [euiTexts, List.mem_flatMap, h.ranges]

theorem joinEuiRanges_eq_nil_iff (h : c.SameEntries c') :
    c.joinEuiRanges = [] ↔ c'.joinEuiRanges = [] := by
  simp only [List.eq_nil_iff_forall_not_mem, h.ranges]

/-- The filters of the same entries give the same verdicts. -/
theorem exists_filters (h : c.SameEntries c') (hf : c.filters = .ok f) :
    ∃ f', c'.filters = .ok f' ∧ (∀ e, f'.joinEui.admits e = f.joinEui.admits e) ∧
      ∀ a, f'.netId.admits a = f.netId.admits a := by
  obtain ⟨htexts, hids⟩ := (exists_filters_eq_ok_iff c).1 ⟨f, hf⟩
  obtain ⟨f', hf'⟩ := (exists_filters_eq_ok_iff c').2
    ⟨fun s hs => htexts s ((h.mem_euiTexts_iff s).2 hs), fun n hn => hids n ((h.netIds n).2 hn)⟩
  refine ⟨f', hf', fun e => ?_, fun a => ?_⟩
  · rw [Bool.eq_iff_iff, admits_joinEui_iff hf, admits_joinEui_iff hf']
    simp only [h.joinEuiRanges_eq_nil_iff, h.ranges]
  · rw [Bool.eq_iff_iff, admits_netId_iff hf, admits_netId_iff hf']
    simp only [h.listed, h.netIds]

end SameEntries

/-- The filters of a configuration are the ones that its entries describe. They can be made if and
    only if every text is an identifier and every listed number is a network. Then a join server is
    admitted if there is no range or it lies in one, and an address if there is no list or its
    network is listed, whatever the order of the entries and however often they occur. Otherwise the
    first bad text is reported as it stands, and without one the first bad number. -/
theorem filters_of_entries (c : Config) :
    ((∃ f, c.filters = .ok f) ↔
      (∀ s ∈ c.euiTexts, (Eui.ofText? s).isSome) ∧ ∀ n ∈ c.listedNetIds, n.toNat < 128) ∧
    (∀ f, c.filters = .ok f →
      (∀ e, f.joinEui.admits e = true ↔ c.joinEuiRanges = [] ∨
        ∃ r ∈ c.joinEuiRanges, ∃ lo hi, r.1.eui = .ok lo ∧ r.2.eui = .ok hi ∧
          lo.value ≤ e.value ∧ e.value ≤ hi.value) ∧
      (∀ a, f.netId.admits a = true ↔ c.netIds = none ∨
        ∃ n ∈ c.listedNetIds, n.toNat = a.value.toNat / 2 ^ 25) ∧
      ∀ c', c.SameEntries c' → ∃ f', c'.filters = .ok f' ∧
        (∀ e, f'.joinEui.admits e = f.joinEui.admits e) ∧
        ∀ a, f'.netId.admits a = f.netId.admits a) ∧
    ∀ e, c.filters = .error e ↔
      (∃ s, c.euiTexts.find? (fun s => (Eui.ofText? s).isNone) = some s ∧ e = .invalidEui s) ∨
      (∀ s ∈ c.euiTexts, (Eui.ofText? s).isSome) ∧
        ∃ n, c.listedNetIds.find? (fun n => 128 ≤ n.toNat) = some n ∧ e = .invalidNetId n :=
  ⟨exists_filters_eq_ok_iff c,
    fun _ hf => ⟨admits_joinEui_iff hf, admits_netId_iff hf, fun _ h => h.exists_filters hf⟩,
    filters_eq_error_iff c⟩

/-- An inverted range and an empty list, which bar everything; a range from a number to a text and
    two networks, in two orders and with repetitions; and two bad texts before a bad number. -/
theorem filters_of_entries_inverted :
    let barred : Config := { joinEuiRanges := [(.number 5, .number 4)], netIds := some [] }
    let range : EuiEntry × EuiEntry := (.number 1, .text " 00-00-00-00-00-00-00-09")
    let listed : Config :=
      { joinEuiRanges := [range, (.number 20, .number 10)], netIds := some [3, 127] }
    let repeated : Config :=
      { joinEuiRanges := [(.number 20, .number 10), range, range], netIds := some [127, 3, 127] }
    let failing : Config :=
      { joinEuiRanges := [range, (.number 1, .text "nope"), (.text "", .number 2)],
        netIds := some [3, 128] }
    (∃ f, barred.filters = .ok f ∧ (∀ e, f.joinEui.admits e = false) ∧
      ∀ a, f.netId.admits a = false) ∧
    listed.SameEntries repeated ∧
    (∃ f, repeated.filters = .ok f ∧ f.joinEui.admits ⟨9⟩ = true ∧ f.joinEui.admits ⟨15⟩ = false ∧
      f.netId.admits ⟨0xFE000000⟩ = true ∧ f.netId.admits ⟨0xFC000000⟩ = false) ∧
    failing.filters = .error (.invalidEui "nope") := by
  intro barred range listed repeated failing
  have hsame : listed.SameEntries repeated := by
    refine ⟨fun r => ?_, by decide, fun n => ?_⟩
    · simp only [listed, repeated, List.mem_cons, List.not_mem_nil, or_false]
      tauto
    · simp only [listedNetIds, listed, repeated, Option.getD_some, List.mem_cons,
        List.not_mem_nil, or_false]
      tauto
  refine ⟨?barred, hsame, ?repeated, ?failing⟩
  case barred =>
    obtain ⟨f, hf⟩ := (filters_of_entries barred).1.2 ⟨nofun, nofun⟩
    obtain ⟨hjoinEui, hnetId, -⟩ := (filters_of_entries barred).2.1 f hf
    refine ⟨f, hf, fun e => Bool.eq_false_iff.2 fun he => ?_,
      fun a => Bool.eq_false_iff.2 fun ha => ?_⟩
    · obtain h | ⟨r, hr, lo, hi, hlo, hhi, hle, hge⟩ := (hjoinEui e).1 he
      · cases h
      · obtain rfl := List.mem_singleton.1 hr
        cases hlo
        cases hhi
        exact absurd (UInt64.le_trans hle hge) (by decide)
    · obtain h | ⟨n, hn, -⟩ := (hnetId a).1 ha
      · cases h
      · cases hn
  case repeated =>
    have hlisted : listed.filters = .ok
        { joinEui := { ranges := [(⟨1⟩, ⟨9⟩), (⟨20⟩, ⟨10⟩)] }, netId := .allowOnly [3, 127] } := by
      decide
    obtain ⟨-, -, hagain⟩ := (filters_of_entries listed).2.1 _ hlisted
    obtain ⟨f, hf, hjoinEui, hnetId⟩ := hagain repeated hsame
    exact ⟨f, hf, (hjoinEui ⟨9⟩).trans (by decide), (hjoinEui ⟨15⟩).trans (by decide),
      (hnetId ⟨0xFE000000⟩).trans (by decide), (hnetId ⟨0xFC000000⟩).trans (by decide)⟩
  case failing =>
    exact ((filters_of_entries failing).2.2 _).2 (.inl ⟨"nope", by decide, rfl⟩)

end Config

end LoraGateway
