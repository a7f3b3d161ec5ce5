import LoraGateway.CommandLine.Run
import LoraGateway.Proofs.FileTree
import LoraGateway.Proofs.JsonRoundTrip

/-!
# Configurations that were saved

What is written for a configuration reads back as the configuration, field by field: identifiers
keep the form that they were given in, and a filter that is not there stays away.

* `rangesOfJson?_json`, `optionalNetIdsOfJson?_json`, `layoutOfJson?_json`: the fields that are read
  from their values;
* `optionsOfSyntax?_of_value?`, `beaconOfSyntax?_of_value?`, `ofSyntax?_of_value?`: the groups of
  fields, read from any text that stands for their value;
* `CommandLine.readConfig_write`: a configuration file.
-/

namespace LoraGateway

/-! ## Values -/

theorem Json.natBelow?_ofNat {bound n : Nat} (h : n < bound) :
    (Json.ofNat n).natBelow? bound = some n := by
  have hn : 0 ≤ (n : Int) ∧ (n : Int) < bound := by omega
  rw [ofNat, natBelow?, if_pos hn, Int.toNat_natCast]

theorem Json.items?_map {α : Type} {read : Json → Option α} {write : α → Json}
    (h : ∀ x, read (write x) = some x) (xs : List α) :
    items? read (.array (xs.map write)) = some xs := by
  rw [items?]
  induction xs with
  | nil => rfl
  | cons x xs ih =>
    rw [List.map_cons, List.mapM_cons, h, ih]
    rfl

theorem EuiEntry.ofJson?_json (e : EuiEntry) : ofJson? e.json = some e := by
  cases e with
  | number n =>
    have hn : n.toNat < UInt64.size := n.toNat_lt
    rw [json, Json.ofNat, ofJson?, ← Json.ofNat, Json.natBelow?_ofNat hn, Option.map_some,
      UInt64.ofNat_toNat]
    nofun
  | text s => rfl

namespace Config

theorem rangesOfJson?_json (ranges : List (EuiEntry × EuiEntry)) :
    rangesOfJson? (.array (ranges.map fun r => .array [r.1.json, r.2.json])) = some ranges := by
  refine Json.items?_map (fun r => ?_) ranges
  rw [rangeOfJson?, EuiEntry.ofJson?_json, EuiEntry.ofJson?_json]
  rfl

theorem optionalNetIdsOfJson?_json (ids : Option (List UInt64)) :
    optionalNetIdsOfJson? (netIdsJson ids) = some ids := by
  cases ids with
  | none => rfl
  | some ids =>
    have hids : netIdsOfJson? (.array (ids.map fun n => Json.ofNat n.toNat)) = some ids := by
      refine Json.items?_map (fun n => ?_) ids
      have hn : n.toNat < UInt64.size := n.toNat_lt
      rw [Json.natBelow?_ofNat hn, Option.map_some, UInt64.ofNat_toNat]
    rw [netIdsJson, optionalNetIdsOfJson?, hids, Option.map_some]
    nofun

theorem layoutOfJson?_json (l : Beacon.Layout) : layoutOfJson? l.json = some l := by
  obtain ⟨time, info, length⟩ := l
  have hbyte (b : UInt8) : (Json.ofNat b.toNat).natBelow? UInt8.size = some b.toNat :=
    Json.natBelow?_ofNat b.toNat_lt
  have hitems : Json.items? (·.natBelow? UInt8.size) (Beacon.Layout.json ⟨time, info, length⟩) =
      some [time.toNat, info.toNat, length.toNat] := by
    rw [Beacon.Layout.json, Json.items?]
    simp [hbyte]
  rw [layoutOfJson?, hitems]
  simp

theorem macFormatOfName?_name (f : MacFormat) : macFormatOfName? f.name = some f := by
  cases f with
  | bytes => rfl
  | colon => rfl

open Json (Syntax)

variable {s : Syntax}

theorem optionsOfSyntax?_of_value? {o : MessageOptions} (h : s.value? = some o.json) :
    optionsOfSyntax? s = some o := by
  simp only [MessageOptions.json, Syntax.value?_eq_object_iff, Syntax.memberValues?_eq_cons_iff,
    Syntax.memberValues?_eq_nil_iff, Syntax.value?_eq_string_iff, Syntax.value?_eq_bool_iff] at h
  obtain ⟨_, rfl, _, _, rfl, rfl, _, _, rfl, rfl, rfl⟩ := h
  have hformat : macFormatOfSyntax? (.string (some o.macFormat.name)) = some o.macFormat :=
    macFormatOfName?_name o.macFormat
  have hraw : boolOfSyntax? (.bool o.rawPayload) = some o.rawPayload := rfl
  simp [optionsOfSyntax?, Syntax.fields?, Syntax.field?, Syntax.orDefault, hformat, hraw]

theorem beaconOfSyntax?_of_value? {l : Beacon.Layout}
    (h : s.value? = some (.object [("layout", l.json)])) : beaconOfSyntax? s = some l := by
  simp only [Syntax.value?_eq_object_iff, Syntax.memberValues?_eq_cons_iff,
    Syntax.memberValues?_eq_nil_iff] at h
  obtain ⟨_, rfl, layout, _, rfl, hlayout, rfl⟩ := h
  simp [beaconOfSyntax?, Syntax.fields?, Syntax.field?, hlayout, layoutOfJson?_json]

/-- Whatever text stands for the value of a configuration, it reads as the configuration. -/
theorem ofSyntax?_of_value? {c : Config} (h : s.value? = some c.json) : ofSyntax? s = some c := by
  -- Every field was written, so that no default is taken for any of them.
  obtain ⟨members, rfl, hmembers⟩ := Syntax.value?_eq_object_iff.1 h
  simp only [Syntax.memberValues?_eq_cons_iff, Syntax.memberValues?_eq_nil_iff] at hmembers
  obtain ⟨ranges, _, rfl, hranges, netIds, _, rfl, hnetIds, options, _, rfl, hoptions, beacon, _,
    rfl, hbeacon, rfl⟩ := hmembers
  simp [ofSyntax?, Syntax.fields?, Syntax.field?, Syntax.orDefault, hranges, hnetIds,
    rangesOfJson?_json, optionalNetIdsOfJson?_json, optionsOfSyntax?_of_value? hoptions,
    beaconOfSyntax?_of_value? hbeacon]

/-! ## The text of a configuration -/

theorem plain_ofNat {depth n : Nat} (h : n < UInt64.size) : Json.Plain depth (Json.ofNat n) :=
  .int (Int.le_trans (by decide) (Int.natCast_nonneg n)) (by exact_mod_cast h)

theorem plain_euiEntry {depth : Nat} (e : EuiEntry) : Json.Plain depth e.json := by
  cases e with
  | number n => exact plain_ofNat n.toNat_lt
  | text s => exact .string s

theorem plain_netIds {depth : Nat} (ids : Option (List UInt64)) :
    Json.Plain (depth + 1) (netIdsJson ids) := by
  cases ids with
  | none => exact .null
  | some ids =>
    refine .array fun v hv => ?_
    obtain ⟨n, -, rfl⟩ := List.mem_map.1 hv
    exact plain_ofNat n.toNat_lt

theorem plain_ranges {depth : Nat} (ranges : List (EuiEntry × EuiEntry)) :
    Json.Plain (depth + 2) (.array (ranges.map fun r => .array [r.1.json, r.2.json])) := by
  refine .array fun v hv => ?_
  obtain ⟨r, -, rfl⟩ := List.mem_map.1 hv
  refine .array ?_
  simp only [List.forall_mem_cons]
  exact ⟨plain_euiEntry r.1, plain_euiEntry r.2, nofun⟩

theorem plain_options {depth : Nat} (o : MessageOptions) : Json.Plain (depth + 1) o.json := by
  refine .object ?_
  simp only [List.forall_mem_cons]
  exact ⟨.string o.macFormat.name, .bool o.rawPayload, nofun⟩

theorem plain_layout {depth : Nat} (l : Beacon.Layout) : Json.Plain (depth + 1) l.json := by
  have hbyte (b : UInt8) : b.toNat < UInt64.size := Nat.lt_trans b.toNat_lt (by decide)
  refine .array ?_
  simp only [List.forall_mem_cons]
  exact ⟨plain_ofNat (hbyte _), plain_ofNat (hbyte _), plain_ofNat (hbyte _), nofun⟩

theorem plain_json (c : Config) : Json.Plain 3 c.json := by
  refine .object ?_
  simp only [List.forall_mem_cons]
  refine ⟨plain_ranges c.joinEuiRanges, plain_netIds c.netIds, plain_options c.options, ?_,
    nofun⟩
  refine .object ?_
  simp only [List.forall_mem_cons]
  exact ⟨plain_layout c.layout, nofun⟩

/-- The text of a configuration, ended by a line feed, reads back as the configuration. -/
theorem ofText?_text (c : Config) : ofText? (c.text ++ "\n") = some c := by
  obtain ⟨s, hsyntax, hvalue⟩ := Option.bind_eq_some_iff.1 c.plain_json.standsFor_prettyText
  rw [ofText?, text, hsyntax, Option.bind_some, ofSyntax?_of_value? hvalue]

end Config

namespace CommandLine

theorem readConfig_of_readText {files : FileTree} {path text : String}
    (h : files.readText path = .ok text) : readConfig files path = Config.ofUsableText text := by
  rw [readConfig, h]
  rfl

/-- A configuration survives being saved and loaded: its text reads back as the same configuration,
    and its file is read as the configuration if that is usable, and otherwise refused for what is
    wrong with it. -/
theorem readConfig_write (c : Config) :
    Config.ofText? (c.text ++ "\n") = some c ∧
    ∀ (files : FileTree) (path : String), (files.write path (configFile c)).fault = none →
      readConfig (files.write path (configFile c)).after path =
        match c.check with
        | .ok () => .ok c
        | .error e => .error e := by
  refine ⟨c.ofText?_text, fun files path h => ?_⟩
  have hread : (files.write path (configFile c)).after.readText path = .ok (c.text ++ "\n") :=
    FileTree.readText_write h
  have hchain : Config.ofUsableText (c.text ++ "\n") = c.check >>= fun _ => pure c := by
    rw [Config.ofUsableText, c.ofText?_text]
  rw [readConfig_of_readText hread, hchain]
  cases c.check with
  | ok u => rfl
  | error e => rfl

/-- A configuration whose texts need escapes, whose numbers are the greatest ones, and which is not
    usable: it is refused for the first text that it was given. -/
theorem readConfig_write_refused :
    let entry : EuiEntry := .text "70-b3\"\\\n\u0001é"
    let c : Config :=
      { joinEuiRanges := [(.number 0xFFFFFFFFFFFFFFFF, entry)]
        netIds := some [0xFFFFFFFFFFFFFFFF, 0]
        options := { macFormat := .colon } }
    readConfig (FileTree.write {} "d/c" (configFile c)).after "d/c" =
      .error (.invalidEui "70-b3\"\\\n\u0001é") := by
  intro entry c
  have hpath : Path.ofText "d/c" = { steps := ["d", "c"] } := by cbv
  have hfault : (FileTree.write {} "d/c" (configFile c)).fault = none := by
    rw [FileTree.write, hpath]
    rfl
  have hcheck : c.check = .error (.invalidEui "70-b3\"\\\n\u0001é") := rfl
  rw [(readConfig_write c).2 {} "d/c" hfault, hcheck]

end CommandLine

end LoraGateway
