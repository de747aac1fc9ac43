import FlowCanvas.Palette.Basic

/-!
# The bundled block types

The six types every editor starts with: calling a function, printing a variable, defining a
function, raw code, the entry point, and the start marker.
-/

namespace FlowCanvas.Palette

/-- The type of blocks that call a function. -/
def callFunctionId : String := "call-function"

/-- The type of blocks that define a function. -/
def functionDefinitionId : String := "function-definition"

/-- A property with a text label. -/
def spec (name : String) (kind : Kind) (label : String) (default : Value)
    (required multiline : Bool) : PropertySpec where
  name := .text name
  kind := kind
  label := .text label
  default := default
  required := required
  multiline := multiline

/-- The two properties that give a container its size. -/
def sizeSpecs : List PropertySpec :=
  [spec "width" .number "Width" (.int 400) false false,
    spec "height" .number "Height" (.int 300) false false]

/-- Calls a function. -/
def callFunction : BlockType where
  id := callFunctionId
  name := .text "Call Function"
  category := .text "Functions"
  icon := .text "📞"
  description := .text "Calls a function defined with a Function Definition block."
  properties :=
    [spec "target_function" .text "Function" (.text "") true false,
      spec "arguments" .arguments "Arguments" (.list []) false false,
      spec "result_variable" .text "Store result in" (.text "") false false]

/-- The template of a block that prints a variable, with the text before it if there is one. -/
def debugTemplate : String :=
  "\x7b\x7b#if prefix\x7d\x7d" ++
    "println!(\"\x7b\x7bprefix\x7d\x7d: \x7b:?\x7d\", \x7b\x7bvariable\x7d\x7d);\n" ++
    "\x7b\x7belse\x7d\x7dprintln!(\"\x7b:?\x7d\", \x7b\x7bvariable\x7d\x7d);\n" ++
    "\x7b\x7b/if\x7d\x7d\n"

/-- Prints a variable. -/
def debugPrint : BlockType where
  id := "debug"
  name := .text "Debug Print"
  category := .text "Output"
  icon := .text "📤"
  description := .text "Prints a variable with its debug representation."
  properties :=
    [spec "variable" .text "Variable" (.text "x") true false,
      spec "prefix" .text "Prefix" (.text "") false false]
  template := .text debugTemplate

/-- Defines a function; the blocks inside form its body. -/
def functionDefinition : BlockType where
  id := functionDefinitionId
  name := .text "Function Definition"
  category := .text "Functions"
  icon := .text "📦"
  description := .text "Defines a function; blocks placed inside form its body."
  properties :=
    [spec "function_name" .text "Function name" (.text "my_function") true false,
      spec "arguments" .arguments "Arguments" (.list []) false false,
      spec "return_type" .text "Return type" (.text "") false false] ++ sizeSpecs
  container := true

/-- Inserts code as it stands. -/
def rawCode : BlockType where
  id := "legacy-code"
  name := .text "Rust Code"
  category := .text "Code"
  icon := .text "⚙️"
  description := .text "Inserts raw Rust statements."
  properties := [spec "code" .code "Code" (.text "let x = 42;") true true]
  template := .text "\x7b\x7bcode\x7d\x7d\n"

/-- The entry point of a program. -/
def entryBlock : BlockType where
  id := "main"
  name := .text "Main"
  category := .text "Functions"
  icon := .text "🏁"
  description :=
    .text "Program entry point. Blocks dropped inside run when the program starts."
  properties := sizeSpecs
  container := true
  entryPoint := true

/-- The first block executed inside its container. -/
def startMarker : BlockType where
  id := "start-node"
  name := .text "Start"
  category := .text "Flow"
  icon := .text "▶️"
  description := .text "First block executed inside its container."

/-- The palette of the bundled types. -/
def bundled : Palette :=
  ⟨[callFunction, debugPrint, functionDefinition, rawCode, entryBlock, startMarker]⟩

end FlowCanvas.Palette
