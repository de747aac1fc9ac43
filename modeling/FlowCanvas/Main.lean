import FlowCanvas.CommandLine.Run

/-!
# The program

The outer layer of the command line. It gathers what a call may need (the environment, the flow it
names, the folder of block types, the environment file), lets `CommandLine.run` decide, and carries
out the report: it prints, writes the file, and ends with the exit code. No code generator is
reached from here, so a call that asks for one reports that.
-/

namespace FlowCanvas.CommandLine

/-- The text of a file, if there is one. -/
def readIfThere (path : String) : IO (Option String) := do
  let place := (← IO.currentDir) / path
  if ← place.pathExists then
    if ← place.isDir then return none
    return some (← IO.FS.readFile place)
  return none

/-- The files of a folder of block types. -/
def readFolder (path : String) : IO (Fields String) := do
  let place := (← IO.currentDir) / path
  unless ← place.isDir do return []
  let mut files : Fields String := []
  for entry in ← place.readDir do
    for name in ["plugin.json", "template.rs"] do
      if let some text ← readIfThere s!"{path}/{entry.fileName}/{name}" then
        files := files ++ [(s!"{path}/{entry.fileName}/{name}", text)]
  return files

/-- The variables that the environment may hold. -/
def variableNames : List String :=
  Settings.switchName ::
    ["SERVICE_URL", "SERVICE_TIMEOUT", "PLUGIN_DIR", "HOST", "PORT", "LOG_LEVEL", "ENV_FILE"].map
      Settings.variableName

/-- Gathers what a call may need. -/
def surroundings (args : List String) : IO Surroundings := do
  let mut environment : Fields String := []
  for name in variableNames do
    if let some value ← IO.getEnv name then
      environment := environment ++ [(name, value)]
  let mut files : Fields String := []
  let named := (Fields.get? environment (Settings.variableName "ENV_FILE")).toList
  for path in args ++ named do
    if let some text ← readIfThere path then
      files := files ++ [(path, text)]
  if let some path := Fields.get? environment (Settings.variableName "PLUGIN_DIR") then
    files := files ++ (← readFolder path)
  return {
    environment := environment
    files := .ofTexts files
    service := fun _ _ ↦ .failed "no connection to the code generator" }

/-- Carries out a call: prints, writes the file, and gives the exit code. -/
def carryOut (args : List String) : IO UInt32 := do
  let around ← surroundings args
  let report := run around args
  for (place, text) in report.files.texts do
    if around.files.texts.lookup place != some text then
      IO.FS.writeFile place.path.text text
  IO.print report.out
  IO.eprint report.errors
  if let some serving := report.serving then
    IO.println s!"serving on {serving.host}:{serving.port}"
  match report.ending with
  | .exit code => return code.toUInt32
  | .usage .help => return 0
  | .usage .mistake => return 2
  | .breakdown _ => return 1

end FlowCanvas.CommandLine

/-- Runs the command line. -/
def main (args : List String) : IO UInt32 := FlowCanvas.CommandLine.carryOut args
