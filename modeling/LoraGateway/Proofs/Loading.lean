import LoraGateway.Proofs.Beacon
import LoraGateway.Proofs.Request
import LoraGateway.Proofs.SavedConfig

/-!
# What a run is configured with

A run is configured by a file, by its arguments or by defaults, and whatever it is configured with
is usable: a configuration is read from a file only if it is (`HoldsConfig`), and so are the layouts
that the arguments give. What comes later in a run, the filters of a capture or a beacon, is made
without a fault.

* `readConfig_eq_ok_iff`: which files are read;
* `loadDefaultConfig_of_holds`, `loadDefaultConfig_of_not_holds`: the default file is used or passed
  over;
* `check_of_loadConfig`, `check_of_loadLayout`: what is loaded is usable;
* `no_late_fault`: all of it, for a run.
-/

namespace LoraGateway

namespace Config

variable {c : Config}

theorem check_eq_ok_iff :
    c.check = .ok () ↔ (∃ filters, c.filters = .ok filters) ∧ c.layout.check = .ok () := by
  rw [check, Result.bind_eq_ok_iff, Result.mapError_eq_ok_iff, exists_and_right]

theorem ofUsableText_eq_ok_iff {text : String} :
    ofUsableText text = .ok c ↔ ofText? text = some c ∧ c.check = .ok () := by
  rw [ofUsableText]
  split
  · next hnone => simp [hnone, Result.throw_ne_ok]
  · next c' hsome =>
    rw [hsome, Option.some_inj, Result.bind_eq_ok_iff]
    constructor
    · rintro ⟨⟨⟩, hcheck, h⟩
      obtain rfl := Result.pure_eq_ok_iff.1 h
      exact ⟨rfl, hcheck⟩
    · rintro ⟨rfl, hcheck⟩
      exact ⟨(), hcheck, rfl⟩

end Config

theorem FileTree.hasPath_of_readText {files : FileTree} {path text : String}
    (h : files.readText path = .ok text) : files.hasPath path = true := by
  obtain ⟨bytes, hbytes, -⟩ := Result.bind_eq_ok_iff.1 h
  obtain ⟨node, hnode, -⟩ := Result.bind_eq_ok_iff.1 hbytes
  rw [hasPath, hnode]
  rfl

namespace CommandLine

/-! ## Files -/

/-- The text of the file at a path is that of a usable configuration. -/
def HoldsConfig (files : FileTree) (path : String) (c : Config) : Prop :=
  ∃ text, files.readText path = .ok text ∧ Config.ofText? text = some c ∧ c.check = .ok ()

variable {files : FileTree} {environment : Environment} {path : String} {c : Config}
  {warnings : List Report}

theorem readConfig_eq_ok_iff : readConfig files path = .ok c ↔ HoldsConfig files path c := by
  rw [readConfig, Result.bind_eq_ok_iff, HoldsConfig]
  simp only [Result.mapError_eq_ok_iff, Config.ofUsableText_eq_ok_iff]

theorem loadDefaultConfig_of_holds (h : HoldsConfig files path c) :
    loadDefaultConfig files path = (c, []) := by
  have hpath : files.hasPath path = true := by
    obtain ⟨text, htext, -⟩ := h
    exact FileTree.hasPath_of_readText htext
  rw [loadDefaultConfig, hpath, readConfig_eq_ok_iff.2 h]
  rfl

theorem loadDefaultConfig_of_not_holds (h : ∀ c, ¬HoldsConfig files path c) :
    ∃ warnings, loadDefaultConfig files path = ({}, warnings) := by
  rw [loadDefaultConfig]
  split
  · exact ⟨_, rfl⟩
  · split
    · next c hc => exact absurd (readConfig_eq_ok_iff.1 hc) (h c)
    · exact ⟨_, rfl⟩

/-- A configuration that is loaded is usable. -/
theorem check_of_loadConfig {path : Option String}
    (h : loadConfig files environment path = .ok (c, warnings)) : c.check = .ok () := by
  cases path with
  | some path =>
    obtain ⟨c', hread, h⟩ := Result.bind_eq_ok_iff.1 h
    obtain ⟨rfl, -⟩ := Prod.mk.inj (Result.pure_eq_ok_iff.1 h)
    obtain ⟨text, -, -, hcheck⟩ := readConfig_eq_ok_iff.1 (Result.mapError_eq_ok_iff.1 hread)
    exact hcheck
  | none =>
    -- The default configuration is usable too, so it does not matter which of the two is loaded.
    have hload := Result.pure_eq_ok_iff.1 h
    by_cases hholds : ∃ c, HoldsConfig files environment.configPath c
    · obtain ⟨c', hc'⟩ := hholds
      rw [loadDefaultConfig_of_holds hc'] at hload
      obtain ⟨rfl, -⟩ := Prod.mk.inj hload
      obtain ⟨text, -, -, hcheck⟩ := hc'
      exact hcheck
    · obtain ⟨_, hdefault⟩ := loadDefaultConfig_of_not_holds (not_exists.1 hholds)
      rw [hdefault] at hload
      obtain ⟨rfl, -⟩ := Prod.mk.inj hload
      rfl

/-! ## Runs -/

variable {i : Invocation} {source : LayoutSource} {l : Beacon.Layout}

/-- The configuration that a command loads: of a named file, or of the default one. -/
def Command.configured? : Command → Option (Option String)
  | .decode _ config .. => some config
  | .beacon _ (.given _) => none
  | .beacon _ (.configured path) => some path
  | .showConfig path => some path
  | .initConfig .. => none

/-- A run whose configuration is not there ends with the line that says why. -/
theorem runCommand_of_loadConfig_eq_error {path : Option String} {line : String}
    (h : loadConfig i.files i.environment path = .error line) {command : Command}
    (hcommand : command.configured? = some path) :
    runCommand i command = failure i.files [] line := by
  cases command with
  | decode file config macFormat omitRaw diagnostics =>
    cases hcommand
    simp only [runCommand, runDecode, h]
  | beacon content source =>
    cases source with
    | given l => cases hcommand
    | configured path =>
      cases hcommand
      have hlayout : loadLayout i (.configured path) = .error line := by
        rw [loadLayout, h]
        rfl
      simp only [runCommand, runBeacon, hlayout]
  | showConfig path =>
    cases hcommand
    simp only [runCommand, runShowConfig, h]
  | initConfig path force => cases hcommand

/-- The layout of a beacon is usable, wherever it comes from. -/
theorem check_of_loadLayout {content : Beacon.Content} {verbose : Bool}
    (hrequest : (Request.run (.beacon content source) verbose).HasUsableLayout)
    (h : loadLayout i source = .ok (l, warnings)) : l.check = .ok () := by
  cases source with
  | given l' =>
    obtain ⟨rfl, -⟩ := Prod.mk.inj (Result.pure_eq_ok_iff.1 h)
    exact hrequest
  | configured path =>
    obtain ⟨⟨c, w⟩, hload, h⟩ := Result.bind_eq_ok_iff.1 h
    obtain ⟨rfl, -⟩ := Prod.mk.inj (Result.pure_eq_ok_iff.1 h)
    exact (Config.check_eq_ok_iff.1 (check_of_loadConfig hload)).2

/-- A run is configured at its start or not at all. What it loads is usable, or it ends there: with
    a named file that is not read, and never with the default one, in whose place the default
    configuration is taken. So the filters of a capture can always be made, and a beacon is built
    for every layout that the arguments or a configuration give, whatever it announces. -/
theorem no_late_fault (i : Invocation) :
    (∀ path, (∃ c warnings, loadConfig i.files i.environment path = .ok (c, warnings) ∧
        c.check = .ok ()) ∨
      ∃ file line, path = some file ∧ loadConfig i.files i.environment path = .error line ∧
        ∀ command : Command, command.configured? = some path →
          runCommand i command = failure i.files [] line) ∧
    (∀ c, HoldsConfig i.files i.environment.configPath c →
      loadConfig i.files i.environment none = .ok (c, [])) ∧
    ((∀ c, ¬HoldsConfig i.files i.environment.configPath c) →
      ∃ warnings, loadConfig i.files i.environment none = .ok ({}, warnings)) ∧
    (∀ path c warnings, loadConfig i.files i.environment path = .ok (c, warnings) →
      ∃ filters, c.filters = .ok filters ∧ ∀ file macFormat omitRaw diagnostics lines,
        readCapture i.files i.input file = .ok lines →
          (runDecode i file path macFormat omitRaw diagnostics).exit = 0) ∧
    ∀ content source verbose,
      Request.ofArguments i.arguments = .ok (.run (.beacon content source) verbose) →
        ∀ l warnings, loadLayout i source = .ok (l, warnings) → ∀ content',
          ∃ pdu, Beacon.build l content' = .ok pdu ∧ runBeacon i content' source =
            { output := [Hex.text pdu], reports := warnings, files := i.files } := by
  refine ⟨fun path => ?_, fun c h => ?_, fun h => ?_, fun path c warnings h => ?_,
    fun content source verbose hrequest l warnings h content' => ?_⟩
  · cases hload : loadConfig i.files i.environment path with
    | ok loaded => exact .inl ⟨loaded.1, loaded.2, rfl, check_of_loadConfig hload⟩
    | error line =>
      cases path with
      | some file => exact .inr ⟨file, line, rfl, rfl,
          fun _ => runCommand_of_loadConfig_eq_error hload⟩
      | none => cases hload
  · rw [loadConfig, loadDefaultConfig_of_holds h]
    rfl
  · obtain ⟨warnings, hdefault⟩ := loadDefaultConfig_of_not_holds h
    rw [loadConfig, hdefault]
    exact ⟨warnings, rfl⟩
  · obtain ⟨⟨filters, hfilters⟩, -⟩ := Config.check_eq_ok_iff.1 (check_of_loadConfig h)
    refine ⟨filters, hfilters, fun file macFormat omitRaw diagnostics lines hlines => ?_⟩
    simp only [runDecode, h, hfilters, hlines]
  · have hcheck := check_of_loadLayout (Request.hasUsableLayout_of_ofArguments hrequest) h
    obtain ⟨pdu, hpdu, -⟩ :=
      Beacon.exists_build_eq_ok (Beacon.Layout.check_eq_ok_iff.1 hcheck) content'
    refine ⟨pdu, hpdu, ?_⟩
    simp only [runBeacon, h, hpdu]

/-- Where the only file is a configuration with a network that does not exist, the default
    configuration is taken, naming the file ends the run, and a layout of the arguments is built. -/
theorem no_late_fault_barred :
    let c : Config := { netIds := some [200] }
    let i : Invocation :=
      { arguments := ["beacon", "--epoch", "1", "--lat", "0", "--lon", "0", "--layout", "1, 9 ,19"]
        files := { files := [(["c"], configFile c)] } }
    (∃ warnings, loadConfig i.files i.environment none = .ok ({}, warnings)) ∧
      (∃ line, runCommand i (.showConfig (some "c")) = failure i.files [] line) ∧
      ∃ content pdu,
        Request.ofArguments i.arguments = .ok (.run (.beacon content (.given ⟨1, 9, 19⟩)) false) ∧
        runBeacon i content (.given ⟨1, 9, 19⟩) =
          { output := [Hex.text pdu], files := i.files } := by
  intro c i
  -- Whatever a path leads to, it is not a usable configuration, because the tree holds none.
  have hunusable (path : String) (c' : Config) : ¬HoldsConfig i.files path c' := by
    rintro ⟨text, htext, hc', hcheck⟩
    obtain ⟨f, hf, hs⟩ := FileTree.exists_mem_of_readText htext
    obtain rfl := List.mem_singleton.1 hf
    obtain rfl := Option.some.inj ((FileTree.fromUTF8?_toUTF8 _).symm.trans hs)
    obtain rfl := Option.some.inj ((Config.ofText?_text c).symm.trans hc')
    cases hcheck
  obtain ⟨hload, -, hdefault, -, hbeacon⟩ := no_late_fault i
  refine ⟨hdefault (hunusable _), ?_, ?_⟩
  · obtain ⟨c', warnings, hc', -⟩ | ⟨file, line, -, -, hrun⟩ := hload (some "c")
    · obtain ⟨loaded, hread, -⟩ := Result.bind_eq_ok_iff.1 hc'
      exact absurd (readConfig_eq_ok_iff.1 (Result.mapError_eq_ok_iff.1 hread)) (hunusable _ _)
    · exact ⟨line, hrun _ rfl⟩
  · have hrequest : ∃ content, Request.ofArguments i.arguments =
        .ok (.run (.beacon content (.given ⟨1, 9, 19⟩)) false) := ⟨_, rfl⟩
    obtain ⟨content, hrequest⟩ := hrequest
    obtain ⟨pdu, -, hrun⟩ := hbeacon content _ false hrequest ⟨1, 9, 19⟩ [] rfl content
    exact ⟨content, pdu, hrequest, hrun⟩

end CommandLine

end LoraGateway
