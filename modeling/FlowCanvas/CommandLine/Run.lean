import FlowCanvas.CommandLine.Arguments
import FlowCanvas.Document.Storage
import FlowCanvas.Palette.Bundled
import FlowCanvas.Palette.Folder
import FlowCanvas.Program.Lower
import FlowCanvas.Service.Client
import FlowCanvas.Settings.Basic

/-!
# The command line

Four commands: `validate` checks a saved flow, `compile` lowers it to a program, `generate` has the
code generated, and `serve` starts the editor. What a call does is a `Report`: what it writes, what
it sends, and how it ends.
-/

namespace FlowCanvas.CommandLine

/-- How the editor is to be served. -/
structure Serving where
  host : String
  port : Int
  reload : Bool
deriving DecidableEq, Repr

/-- A fault that ends a call without a message of its own. -/
inductive Breakdown where
  | settings (fault : SettingsFault)
  | file (fault : FileFault)
  /-- The reading of the block types ended early. -/
  | paletteFolder (why : Palette.Folder.Stop)
  /-- The flow goes beyond a limit, or a block type is beyond use. -/
  | document (fault : DocumentFault)
  | service (fault : ServiceFault)
  /-- The flow is nested too deeply to be lowered. -/
  | tooDeep
deriving DecidableEq

/-- How a call ends. -/
inductive Ending where
  | exit (code : Nat)
  | usage (usage : Usage)
  | breakdown (why : Breakdown)
deriving DecidableEq

/-- What a call does. -/
structure Report where
  ending : Ending
  out : String := ""
  errors : String := ""
  files : Files
  sent : List Service.Request := []
  serving : Option Serving := none

/-- What a call finds: the environment, the files, the service. -/
structure Surroundings where
  environment : Fields String := []
  files : Files := {}
  service : Service

/-- The exit code of a flow that is refused. -/
def refused : Nat := 1

/-- The exit code of a file that is missing. -/
def missing : Nat := 2

/-- The end of a call that a file fault ends. -/
def fileEnd (report : Report) : FileFault → Report
  | .missing path =>
    { report with
      ending := .exit missing
      errors := report.errors ++
        s!"error: [Errno 2] No such file or directory: {Text.quoted path.text}\n" }
  | fault => { report with ending := .breakdown (.file fault) }

/-- The end of a call that a fault of the domain ends. -/
def faultEnd (report : Report) (message : String) : Report :=
  { report with ending := .exit refused, errors := report.errors ++ s!"error: {message}\n" }

/-- Writes a text to a file, or to the output if no file is named. -/
def emit (report : Report) (text : String) (out : Option String) : Report :=
  match out.filter (· != "") with
  | some path =>
    match report.files.write (.ofText path) text with
    | .ok (_, files) => { report with files := files }
    | .error fault => fileEnd report fault
  | none =>
    let ended := if text.toList.getLast? = some '\n' then text else text ++ "\n"
    { report with out := report.out ++ ended }

/-- The palette of a call: the bundled types and those of the folder that the settings name. -/
def paletteOf (settings : Settings) (files : Files) : Except Breakdown Palette :=
  match settings.paletteFolder with
  | none => .ok Palette.bundled
  | some path =>
    match files.directory? (.ofText path) with
    | .error fault => .error (.file fault)
    | .ok place =>
      let report := Palette.bundled.readFolder (place.map files.below)
      match report.stopped with
      | some why => .error (.paletteFolder why)
      | none => .ok report.palette

/-- Opens a flow and goes on with its drawing. -/
def withFlow (report : Report) (palette : Palette) (path : String) (go : Drawing → Report) :
    Report :=
  match Document.openFile (some palette) report.files (.ofText path) with
  | .error (.file fault) => fileEnd report fault
  | .error (.document fault) =>
    if fault.isMalformed then faultEnd report fault.message
    else { report with ending := .breakdown (.document fault) }
  | .ok drawing => go drawing

/-- Lowers a drawing and goes on with the program. -/
def withProgram (report : Report) (palette : Palette) (drawing : Drawing) (go : Program → Report) :
    Report :=
  match Program.ofDrawing (some palette) drawing with
  | .error (.integrity fault) => faultEnd report fault.message
  | .error .tooDeep => { report with ending := .breakdown .tooDeep }
  | .ok program => go program

/-- Carries out a command on a saved flow. -/
def runFlow (around : Surroundings) (settings : Settings) (report : Report) (command : Command) :
    Report :=
  match paletteOf settings report.files with
  | .error why => { report with ending := .breakdown why }
  | .ok palette =>
    match command with
    | .validate flow =>
      withFlow report palette flow fun drawing ↦
        emit report
          s!"{flow}: OK ({drawing.blocks.length} nodes, {drawing.wires.length} edges)" none
    | .compile flow out =>
      withFlow report palette flow fun drawing ↦
        withProgram report palette drawing fun program ↦
          emit report (Json.indented program.toValue) out
    | .generate flow out =>
      withFlow report palette flow fun drawing ↦
        withProgram report palette drawing fun program ↦
          let (result, sent) :=
            (Client.ofUrl settings.serviceUrl).compile around.service report.sent program.payload
          let asked := { report with sent := sent }
          match result with
          | .ok code => emit asked code out
          | .error fault =>
            if fault.isRemote then faultEnd asked fault.message
            else { asked with ending := .breakdown (.service fault) }
    | .serve _ _ _ => report

/-- The text of the environment file that the environment names, if there is one. -/
def envFileOf (around : Surroundings) : Option String :=
  match (Fields.get? around.environment (Settings.variableName "ENV_FILE")).getD "" with
  | "" => none
  | path =>
    if Path.asksDirectory path then none else (around.files.read (.ofText path)).toOption

/-- Carries out a call. -/
def run (around : Surroundings) (args : List String) : Report :=
  let start : Report := { ending := .exit 0, files := around.files }
  match Arguments.parse args with
  | .error usage => { start with ending := .usage usage }
  | .ok arguments =>
    match Settings.load around.environment (envFileOf around) with
    | .error fault => { start with ending := .breakdown (.settings fault) }
    | .ok settings =>
      match arguments.command with
      | .serve host port reload =>
        { start with
          serving := some {
            host := (host.filter (· != "")).getD settings.host
            port := (port.filter (· != 0)).getD settings.port
            reload := reload } }
      | command => runFlow around settings start command

end FlowCanvas.CommandLine
