import LoraGateway.Beacon.LayoutText
import LoraGateway.Beacon.Pdu
import LoraGateway.CommandLine.Arguments
import LoraGateway.Config.Reader
import LoraGateway.Decimal.Nearest

/-!
# Commands

What the program can be asked to do (`Command`), and how it is asked on the command line
(`Request.ofArguments`). Options are looked at in their order, and the first fault is reported; that
an option is missing, or that two of them exclude each other, is asked at the end.
-/

namespace LoraGateway.CommandLine

/-- Where a beacon's layout is taken from. -/
inductive LayoutSource
  | given (l : Beacon.Layout)
  /-- From the configuration, which may be in a named file. -/
  | configured (path : Option String)
  deriving DecidableEq, Repr

/-- A task of the program. -/
inductive Command
  /-- Decodes a capture. Choices that are given take the place of the configured ones. -/
  | decode (file : String) (config : Option String) (macFormat : Option MacFormat)
      (omitRaw diagnostics : Bool)
  /-- Builds a beacon. -/
  | beacon (content : Beacon.Content) (source : LayoutSource)
  /-- Prints the configuration. -/
  | showConfig (path : Option String)
  /-- Writes the default configuration. -/
  | initConfig (path : Option String) (force : Bool)

/-- What is asked on a command line. -/
inductive Request
  | run (command : Command) (verbose : Bool)
  | version
  | help

/-- Why a command line asks nothing that can be done. -/
inductive UsageError
  | unexpected (argument : String)
  | repeated (option : String)
  | valueless (option : String)
  | badValue (option text : String)
  | badLayout (fault : Beacon.LayoutTextFault)
  | missing (option : String)
  | exclusive (option other : String)
  | noCommand
  deriving DecidableEq, Repr

/-- The wording of an error. -/
def UsageError.message : UsageError → String
  | .unexpected argument => s!"unexpected argument '{argument}'"
  | .repeated option => s!"'--{option}' cannot be used multiple times"
  | .valueless option => s!"a value is required for '--{option}'"
  | .badValue option text => s!"invalid value '{text}' for '--{option}'"
  | .badLayout fault => s!"invalid value for '--layout': {fault.message}"
  | .missing option => s!"'--{option}' was not provided"
  | .exclusive option other => s!"'--{option}' cannot be used with '--{other}'"
  | .noCommand => "a command is required"

/-- A request under construction: why it ended, or the options met so far. -/
abbrev Parse (α : Type) := Except (UsageError ⊕ Request) α

namespace Parse

/-- Ends with an error. -/
def fail {α : Type} (e : UsageError) : Parse α :=
  throw (.inl e)

/-- Keeps the value of an option that may be given once. -/
def once {α : Type} (option : String) (old : Option α) (value : Parse α) : Parse (Option α) := do
  if old.isSome then
    fail (.repeated option)
  some <$> value

/-- Sets a flag that may be given once. -/
def flagOnce (option : String) (old : Bool) : Parse Bool := do
  if old then
    fail (.repeated option)
  pure true

/-- Keeps the value of an option that may be given once, if its text has one. -/
def valueOnce {α : Type} (option text : String) (old read : Option α) : Parse (Option α) :=
  once option old <|
    match read with
    | some v => pure v
    | none => fail (.badValue option text)

/-- The value of an option that must be given. -/
def required {α : Type} (option : String) : Option α → Parse α
  | some v => pure v
  | none => fail (.missing option)

end Parse

open Parse (fail once valueOnce flagOnce required)

/-- A path that is not empty. -/
def path? (text : String) : Option String :=
  if text.isEmpty then none else some text

/-- A number within bounds. -/
def intWithin? (lowest highest : Int) (text : String) : Option Int :=
  (Decimal.signed? text.toList).filter fun n => lowest ≤ n && n ≤ highest

/-- The layout of a region. -/
def regionLayout? (text : String) : Option Beacon.Layout :=
  if text = "eu868" then some .eu868
  else if text = "us915" then some .us915
  else none

/-- The options that every command takes. -/
def commonOptions : List (String × Arity) :=
  [("verbose", .flag), ("help", .flag)]

/-- The flags that every command takes: whether the log is verbose, after an occurrence. -/
def commonFlag (verbose : Bool) : Occurrence → Parse Bool
  | .flag "verbose" => flagOnce "verbose" verbose
  | .flag "help" => throw (.inr .help)
  | .flag "version" => throw (.inr .version)
  | .flag name => fail (.unexpected name)
  | .value name _ => fail (.unexpected name)
  | .valueless name => fail (.valueless name)
  | .operand text => fail (.unexpected text)

/-- The options of `decode` met so far. -/
structure DecodeOptions where
  file : Option String := none
  config : Option String := none
  macFormat : Option MacFormat := none
  omitRaw : Bool := false
  diagnostics : Bool := false
  verbose : Bool := false

namespace DecodeOptions

/-- What `decode` takes. -/
def grammar : Grammar where
  options := commonOptions ++ [("config", .value), ("mac-format", .value),
    ("no-raw-payload", .flag), ("diag", .flag)]
  operands := 1

/-- Takes an occurrence. -/
def add (o : DecodeOptions) : Occurrence → Parse DecodeOptions
  | .operand text => return { o with file := ← valueOnce "file" text o.file (path? text) }
  | .value "config" text =>
    return { o with config := ← valueOnce "config" text o.config (path? text) }
  | .value "mac-format" text => do
    let read := Config.macFormatOfName? text
    return { o with macFormat := ← valueOnce "mac-format" text o.macFormat read }
  | .flag "no-raw-payload" => return { o with omitRaw := ← flagOnce "no-raw-payload" o.omitRaw }
  | .flag "diag" => return { o with diagnostics := ← flagOnce "diag" o.diagnostics }
  | other => return { o with verbose := ← commonFlag o.verbose other }

/-- The command that the options describe. -/
def command (o : DecodeOptions) : Parse Command := do
  let file ← required "file" o.file
  pure (.decode file o.config o.macFormat o.omitRaw o.diagnostics)

end DecodeOptions

/-- The options of `beacon` met so far. -/
structure BeaconOptions where
  epoch : Option Int64 := none
  infoDesc : Option UInt8 := none
  latitude : Option Float := none
  longitude : Option Float := none
  region : Option Beacon.Layout := none
  layout : Option Beacon.Layout := none
  config : Option String := none
  verbose : Bool := false

namespace BeaconOptions

/-- What `beacon` takes. -/
def grammar : Grammar where
  options := commonOptions ++ [("epoch", .anyValue), ("infodesc", .value), ("lat", .anyValue),
    ("lon", .anyValue), ("region", .value), ("layout", .value), ("config", .value)]

/-- Takes an occurrence. -/
def add (o : BeaconOptions) : Occurrence → Parse BeaconOptions
  | .value "epoch" text => do
    let read := (intWithin? Int64.minValue.toInt Int64.maxValue.toInt text).map Int64.ofInt
    return { o with epoch := ← valueOnce "epoch" text o.epoch read }
  | .value "infodesc" text => do
    let read := (intWithin? 0 255 text).map fun n => UInt8.ofNat n.toNat
    return { o with infoDesc := ← valueOnce "infodesc" text o.infoDesc read }
  | .value "lat" text => do
    let read := Decimal.float? text.toList
    return { o with latitude := ← valueOnce "lat" text o.latitude read }
  | .value "lon" text => do
    let read := Decimal.float? text.toList
    return { o with longitude := ← valueOnce "lon" text o.longitude read }
  | .value "region" text =>
    return { o with region := ← valueOnce "region" text o.region (regionLayout? text) }
  | .value "layout" text => do
    let read : Parse Beacon.Layout := match Beacon.Layout.ofText text with
      | .ok l => pure l
      | .error fault => fail (.badLayout fault)
    return { o with layout := ← once "layout" o.layout read }
  | .value "config" text =>
    return { o with config := ← valueOnce "config" text o.config (path? text) }
  | other => return { o with verbose := ← commonFlag o.verbose other }

/-- The command that the options describe. -/
def command (o : BeaconOptions) : Parse Command := do
  if o.region.isSome ∧ o.layout.isSome then
    fail (.exclusive "region" "layout")
  let epoch ← required "epoch" o.epoch
  let latitude ← required "lat" o.latitude
  let longitude ← required "lon" o.longitude
  let source := match o.layout.or o.region with
    | some l => LayoutSource.given l
    | none => .configured o.config
  pure (.beacon { epoch, infoDesc := o.infoDesc.getD 0, latitude, longitude } source)

end BeaconOptions

/-- The options of `config show` and `config init` met so far. -/
structure ConfigOptions where
  path : Option String := none
  force : Bool := false
  verbose : Bool := false

namespace ConfigOptions

/-- What `config show` takes. -/
def showGrammar : Grammar where
  options := commonOptions ++ [("config", .value)]

/-- What `config init` takes. -/
def initGrammar : Grammar where
  options := commonOptions ++ [("path", .value), ("force", .flag)]

/-- Takes an occurrence. -/
def add (o : ConfigOptions) : Occurrence → Parse ConfigOptions
  | .value name text =>
    return { o with path := ← valueOnce name text o.path (path? text) }
  | .flag "force" => return { o with force := ← flagOnce "force" o.force }
  | other => return { o with verbose := ← commonFlag o.verbose other }

end ConfigOptions

/-- Scans all arguments of a command that is not divided further, and takes what occurs in its
    order. -/
def options {α : Type} (g : Grammar) (add : α → Occurrence → Parse α) (start : α)
    (arguments : List String) : Parse α := do
  let (occurrences, ending) := g.scan none g.operands arguments
  let o ← occurrences.foldlM add start
  match ending with
  | .complete => pure o
  | .command name _ => fail (.unexpected name)
  | .unexpected a _ => fail (.unexpected a)

/-- Scans the arguments in front of the name of a command: whether the log is verbose, the name and
    what comes after it. -/
def commandName (g : Grammar) (verbose : Bool) (arguments : List String) :
    Parse (Bool × String × List String) := do
  let (occurrences, ending) := g.scan none 0 arguments
  let flags ← occurrences.foldlM commonFlag false
  match ending with
  | .complete => fail .noCommand
  | .command name rest => pure (verbose || flags, name, rest)
  | .unexpected a _ => fail (.unexpected a)

/-- The names of the commands into which the command with the given names is divided. -/
def commandsBelow : List String → List String
  | [] => ["decode", "beacon", "config", "help"]
  | ["config"] => ["show", "init", "help"]
  | _ => []

/-- Reads the names of the command that help is wanted for, below the command with the names
    `parent`. -/
def helpRequest (parent : List String) : List String → Parse Request
  | [] => pure .help
  | name :: rest =>
    if name ∈ commandsBelow parent then helpRequest (parent ++ [name]) rest
    else fail (.unexpected name)

/-- What the program takes in front of a command. -/
def mainGrammar : Grammar where
  options := commonOptions ++ [("version", .flag)]
  commands := commandsBelow []

/-- What `config` takes in front of its commands. -/
def configGrammar : Grammar where
  options := commonOptions
  commands := commandsBelow ["config"]

/-- Reads the arguments of `config`. -/
def configRequest (verbose : Bool) (arguments : List String) : Parse Request := do
  let (verbose, name, rest) ← commandName configGrammar verbose arguments
  match name with
  | "show" =>
    let o ← options ConfigOptions.showGrammar ConfigOptions.add {} rest
    pure (.run (.showConfig o.path) (verbose || o.verbose))
  | "init" =>
    let o ← options ConfigOptions.initGrammar ConfigOptions.add {} rest
    pure (.run (.initConfig o.path o.force) (verbose || o.verbose))
  | _ => helpRequest ["config"] rest

/-- Reads the arguments of the program. -/
def mainRequest (arguments : List String) : Parse Request := do
  let (verbose, name, rest) ← commandName mainGrammar false arguments
  match name with
  | "decode" =>
    let o ← options DecodeOptions.grammar DecodeOptions.add {} rest
    pure (.run (← o.command) (verbose || o.verbose))
  | "beacon" =>
    let o ← options BeaconOptions.grammar BeaconOptions.add {} rest
    pure (.run (← o.command) (verbose || o.verbose))
  | "config" => configRequest verbose rest
  | _ => helpRequest [] rest

/-- What the arguments of the program ask for. -/
def Request.ofArguments (arguments : List String) : Except UsageError Request :=
  match mainRequest arguments with
  | .ok r => pure r
  | .error (.inr r) => pure r
  | .error (.inl e) => throw e

end LoraGateway.CommandLine
