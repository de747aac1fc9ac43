import FlowCanvas.Number.Numeral
import FlowCanvas.Settings.EnvFile
import FlowCanvas.Text.Upper

/-!
# Settings

The settings of an editor, read from variables of the environment, which an environment file may
complete.
-/

namespace FlowCanvas

/-- The settings of an editor. -/
structure Settings where
  serviceUrl : String
  /-- In seconds; without it the editor waits indefinitely. -/
  serviceTimeout : Option Float := none
  /-- A folder of further block types. -/
  paletteFolder : Option String := none
  host : String := "0.0.0.0"
  port : Int := 3001
  logLevel : String := "INFO"

/-- Why settings cannot be read. -/
inductive SettingsFault where
  | badTimeout (text : String)
  | badPort (text : String)
  /-- The environment file binds a name that no variable can have. -/
  | badVariable (name : String)
deriving DecidableEq, Repr

namespace Settings

/-- The service that is asked if none is named. -/
def defaultServiceUrl : String := "http://localhost:3000/api"

/-- The name of the environment variable of a setting. -/
def variableName (setting : String) : String := "BLOCKGRAPH_" ++ setting

/-- Reads the settings from an environment. -/
def ofEnvironment (environment : Fields String) : Except SettingsFault Settings := do
  let given (setting : String) : Option String := Fields.get? environment (variableName setting)
  let url := (given "SERVICE_URL").getD defaultServiceUrl
  let timeout ←
    match (given "SERVICE_TIMEOUT").getD "" with
    | "" => .ok none
    | text =>
      match Number.lenientFloat? text with
      | some seconds => .ok (some seconds)
      | none => .error (.badTimeout text)
  let portText := (given "PORT").getD "3001"
  let port ←
    match Number.lenientInt? portText with
    | some n => .ok n
    | none => .error (.badPort portText)
  return {
    serviceUrl := String.ofList (Text.trimEnd (· = '/') url.toList)
    serviceTimeout := timeout
    paletteFolder := (given "PLUGIN_DIR").filter (· != "")
    host := (given "HOST").getD "0.0.0.0"
    port := port
    logLevel := Text.upper ((given "LOG_LEVEL").getD "INFO") }

/-- The variable by which environment files are switched off. -/
def switchName : String := "PYTHON_DOTENV_DISABLED"

/-- Whether an environment switches environment files off. -/
def ignoresFile (environment : Fields String) : Bool :=
  (Fields.get? environment switchName).any fun s ↦
    ["1", "TRUE", "T", "YES", "Y"].contains (Text.upper s)

/-- Reads the settings from an environment completed by a file, if there is one and it counts. -/
def load (environment : Fields String) (file : Option String) : Except SettingsFault Settings :=
  match if ignoresFile environment then none else file with
  | none => ofEnvironment environment
  | some text =>
    match EnvFile.unfit? environment text with
    | some name => .error (.badVariable name)
    | none => ofEnvironment (EnvFile.complete environment text)

end Settings

end FlowCanvas
