import LoraGateway.CommandLine.Command
import LoraGateway.Config.Printer
import LoraGateway.Files.Tree
import LoraGateway.Log.Filter
import LoraGateway.Session

/-!
# Running commands

A run is a function of what it is given (`Invocation`): arguments, standard input, the environment
and the files it can see. It says what is printed, what is logged, how it ends and what files there
are then (`Outcome`). Which log events are shown is decided last, so no other part of the outcome
depends on it.

A configuration that is loaded is usable. From a file that was named it must be read; the default
file is passed over, with a warning, if it cannot be used (`loadConfig`).
-/

namespace LoraGateway.CommandLine

/-- The variables of the environment that a run looks at. -/
structure Environment where
  /-- The home directory. -/
  home : Option String := none
  /-- The home directory where there is no such variable. -/
  userProfile : Option String := none
  /-- Which log events are shown. -/
  logDirectives : Option String := none
  deriving DecidableEq, Repr, Inhabited

/-- A line of the error output. -/
inductive Report
  | line (text : String)
  | event (e : Log.Event)
  /-- An event that is only made if its level and target are followed. -/
  | followed (e : Log.Event)
  deriving DecidableEq, Repr

/-- What a run is given. -/
structure Invocation where
  arguments : List String
  input : Bytes := []
  environment : Environment := {}
  files : FileTree := {}

/-- How a run ends. -/
structure Outcome where
  exit : UInt8 := 0
  /-- The lines that are printed. -/
  output : List String := []
  reports : List Report := []
  files : FileTree

/-- A path with a name after it. -/
def joinPath (path name : String) : String :=
  if path.isEmpty ∨ path.endsWith "/" then path ++ name else path ++ "/" ++ name

/-- The home directory, or the working directory if there is none. -/
def Environment.homePath (e : Environment) : String :=
  (e.home.or e.userProfile).getD "."

/-- The default configuration file. -/
def Environment.configPath (e : Environment) : String :=
  joinPath (joinPath e.homePath ".lorafwd") "config.json"

/-- Reads a configuration file. -/
def readConfig (files : FileTree) (path : String) : Except Config.Error Config := do
  let text ← (files.readText path).mapError .file
  Config.ofUsableText text

/-- The warning about a default configuration file that cannot be used. -/
def unusableEvent (path : String) (e : Config.Error) : Log.Event where
  level := .warn
  target := "lorafwd_core::config"
  message := "ignoring unusable config file"
  fields := [("path", path), ("error", e.message)]

/-- The configuration of the default file, with the warnings about it. -/
def loadDefaultConfig (files : FileTree) (path : String) : Config × List Report :=
  if !files.hasPath path then ({}, [])
  else
    match readConfig files path with
    | .ok c => (c, [])
    | .error e => ({}, [.event (unusableEvent path e)])

/-- The configuration of a named file or of the default one; or the line that says why there is
    none. -/
def loadConfig (files : FileTree) (environment : Environment) (path : Option String) :
    Except String (Config × List Report) :=
  match path with
  | some path => do
    let c ← (readConfig files path).mapError fun e =>
      s!"Error reading config {path}: {e.message}"
    pure (c, [])
  | none => pure (loadDefaultConfig files environment.configPath)

/-- The bytes of a capture, which `-` takes from the standard input. -/
def captureBytes (files : FileTree) (input : Bytes) (path : String) : Except FileError Bytes :=
  if path = "-" then pure input else files.read path

/-- The lines of a capture. -/
def readCapture (files : FileTree) (input : Bytes) (path : String) :
    Except String (List Capture.Line) :=
  let lines : Except FileError (List Capture.Line) := do
    let bytes ← captureBytes files input path
    match Capture.ofBytes? bytes with
    | some lines => pure lines
    | none => throw .notText
  lines.mapError fun e => s!"Error opening {path}: {e.message}"

/-- The reports of a step. Diagnostic lines are printed, or else logged if they are followed. -/
def stepReports (diagnostics : Bool) (s : Session.Step) : List Report :=
  s.events.map .event ++
    s.lines.map (if diagnostics then .line else (.followed <| Session.diagnosticEvent ·))

/-- The choices of a configuration with those of the command line in their place. -/
def chosenOptions (o : MessageOptions) (macFormat : Option MacFormat) (omitRaw : Bool) :
    MessageOptions where
  macFormat := macFormat.getD o.macFormat
  rawPayload := o.rawPayload && !omitRaw

/-- Decodes the lines of a capture. -/
def decodeLines (filters : Filters) (o : MessageOptions) (diagnostics : Bool)
    (lines : List Capture.Line) : List String × List Report :=
  let (steps, last) := (Session.State.start filters).run (Capture.items lines)
  (steps.filterMap (·.message? o),
    (Capture.badLines lines).map (.event <| Session.badLineEvent ·) ++
      steps.flatMap (stepReports diagnostics) ++
      [.event last.counts.event, .line last.counts.summary])

/-- An outcome that only reports a fault. -/
def failure (files : FileTree) (reports : List Report) (line : String) : Outcome where
  exit := 1
  reports := reports ++ [.line line]
  files := files

/-- Runs `decode`. -/
def runDecode (i : Invocation) (file : String) (config : Option String)
    (macFormat : Option MacFormat) (omitRaw diagnostics : Bool) : Outcome :=
  match loadConfig i.files i.environment config with
  | .error line => failure i.files [] line
  | .ok (c, warnings) =>
    match c.filters with
    | .error e => failure i.files warnings s!"Error in filter config: {e.message}"
    | .ok filters =>
      match readCapture i.files i.input file with
      | .error line => failure i.files warnings line
      | .ok lines =>
        let o := chosenOptions c.options macFormat omitRaw
        let (output, reports) := decodeLines filters o diagnostics lines
        { output, reports := warnings ++ reports, files := i.files }

/-- The layout of a beacon, with the warnings about its configuration. -/
def loadLayout (i : Invocation) : LayoutSource → Except String (Beacon.Layout × List Report)
  | .given l => pure (l, [])
  | .configured path => do
    let (c, warnings) ← loadConfig i.files i.environment path
    pure (c.layout, warnings)

/-- Runs `beacon`. -/
def runBeacon (i : Invocation) (content : Beacon.Content) (source : LayoutSource) : Outcome :=
  match loadLayout i source with
  | .error line => failure i.files [] line
  | .ok (l, warnings) =>
    match Beacon.build l content with
    | .error e => failure i.files warnings s!"Error: {e.message}"
    | .ok pdu => { output := [Hex.text pdu], reports := warnings, files := i.files }

/-- Runs `config show`. -/
def runShowConfig (i : Invocation) (path : Option String) : Outcome :=
  match loadConfig i.files i.environment path with
  | .error line => failure i.files [] line
  | .ok (c, warnings) => { output := [c.text], reports := warnings, files := i.files }

/-- The content of a configuration file. -/
def configFile (c : Config) : Bytes :=
  (c.text ++ "\n").toUTF8.toList

/-- Runs `config init`. -/
def runInitConfig (i : Invocation) (path : Option String) (force : Bool) : Outcome :=
  let target := path.getD i.environment.configPath
  if i.files.hasPath target ∧ !force then
    failure i.files [] s!"{target} already exists (use --force to overwrite)"
  else
    match i.files.write target (configFile {}) with
    | { after, fault := none } => { reports := [.line s!"Wrote {target}"], files := after }
    | { after, fault := some e } =>
      failure after [] s!"Error writing {target}: {(Config.Error.file e).message}"

/-- The paths that a command may look at. -/
def Command.paths (e : Environment) : Command → List String
  | .decode file config .. => [file, config.getD e.configPath]
  | .beacon _ (.given _) => []
  | .beacon _ (.configured path) => [path.getD e.configPath]
  | .showConfig path => [path.getD e.configPath]
  | .initConfig path _ => [path.getD e.configPath]

/-- True if a command reads the standard input. -/
def Command.readsInput : Command → Bool
  | .decode file .. => file == "-"
  | _ => false

/-- Runs a command. -/
def runCommand (i : Invocation) : Command → Outcome
  | .decode file config macFormat omitRaw diagnostics =>
    runDecode i file config macFormat omitRaw diagnostics
  | .beacon content source => runBeacon i content source
  | .showConfig path => runShowConfig i path
  | .initConfig path force => runInitConfig i path force

/-- The name and the version of the program. -/
def versionLine : String := "lorafwd 0.1.0"

/-- How the program is used. -/
def helpLines : List String :=
  ["Usage: lorafwd [-v] decode FILE [--config PATH] [--mac-format bytes|colon]",
    "                           [--no-raw-payload] [--diag]",
    "       lorafwd [-v] beacon --epoch N --lat DEG --lon DEG [--infodesc N]",
    "                           [--region eu868|us915 | --layout A,B,C] [--config PATH]",
    "       lorafwd [-v] config show [--config PATH]",
    "       lorafwd [-v] config init [--path PATH] [--force]"]

/-- Does what is asked for. -/
def runRequest (i : Invocation) : Request → Outcome
  | .run command _ => runCommand i command
  | .version => { output := [versionLine], files := i.files }
  | .help => { output := helpLines, files := i.files }

/-- The log events that are shown: those of the environment, if it says so, and otherwise those
    down to a level. -/
def logFilter (environment : Environment) : Request → Log.Filter
  | .run _ verbose =>
    (environment.logDirectives.bind Log.Filter.ofText?).getD
      (.downTo (if verbose then .debug else .info))
  | _ => .downTo .info

/-- The line of a report, if it is shown. -/
def Report.shown? (f : Log.Filter) : Report → Option String
  | .line text => some text
  | .event e => if f.shows e then some e.line else none
  | .followed e => if f.follows e.level e.target && f.shows e then some e.line else none

/-- What a run prints, and how it ends. -/
structure Printed where
  exit : UInt8
  output : String
  errors : String
  files : FileTree

/-- Lines, each ended by a line feed. -/
def unlines (lines : List String) : String :=
  String.join (lines.map (· ++ "\n"))

/-- Runs the program. -/
def run (i : Invocation) : Except UsageError Printed := do
  let request ← Request.ofArguments i.arguments
  let outcome := runRequest i request
  let filter := logFilter i.environment request
  pure {
    exit := outcome.exit
    output := unlines outcome.output
    errors := unlines (outcome.reports.filterMap (·.shown? filter))
    files := outcome.files
  }

end LoraGateway.CommandLine
