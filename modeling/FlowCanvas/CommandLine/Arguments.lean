import FlowCanvas.Number.Numeral

/-!
# Arguments

The arguments of the command line: an option for the log level, then a command with options of its
own. A long option may be shortened as long as it stays unambiguous, and its value may follow as the
next argument or after `=`. After `--` nothing is an option; the mark itself belongs to the plain
argument beside it and is a mistake elsewhere. As a value after `=` it stands for no value.
-/

namespace FlowCanvas.CommandLine

/-- What an option takes. -/
inductive Takes where
  | nothing
  | text
  | integer
deriving DecidableEq, Repr

/-- An option of a command. -/
structure OptionSpec where
  name : String
  takes : Takes
deriving DecidableEq, Repr

/-- Whether a text will do as the value of an option. -/
def OptionSpec.accepts (spec : OptionSpec) (value : String) : Bool :=
  match spec.takes with
  | .nothing => false
  | .text => true
  | .integer => (Number.lenientInt? value).isSome

/-- What an argument is taken for. -/
inductive Argument where
  | plain (text : String)
  | option (spec : OptionSpec) (attached : Option String)
  | unknownOption
  | ambiguous
  /-- The mark after which nothing is an option. -/
  | endOfOptions
deriving DecidableEq, Repr

/-- The mark after which nothing is an option. -/
def endMark : String := "--"

/-- Whether a text after a minus sign is a number; a line feed may end it. -/
def isNegativeNumber (body : List Char) : Bool :=
  let body := if body.getLast? = some '\n' then body.dropLast else body
  let digits := body.takeWhile Text.isDecimal
  match body.dropWhile Text.isDecimal with
  | [] => !digits.isEmpty
  | '.' :: fraction => !fraction.isEmpty && fraction.all Text.isDecimal
  | _ => false

/-- The help option, which every command has. -/
def helpSpec : OptionSpec := ⟨"--help", .nothing⟩

/-- Cuts a text at the first equals sign. -/
def splitEquals (s : String) : String × Option String :=
  let cs := s.toList
  match cs.dropWhile (· != '=') with
  | _ :: rest => (String.ofList (cs.takeWhile (· != '=')), some (String.ofList rest))
  | [] => (s, none)

/-- The value attached to the help option in its short form. Further letters are options of their
own, and help is the only one. -/
def attachedToHelp (cs : List Char) : Option String :=
  let letters :=
    match cs with
    | '=' :: c :: rest => c :: rest
    | _ => cs
  if letters.all (· = 'h') then none else some (String.ofList cs)

/-- What an argument is taken for where options are allowed. -/
def Argument.ofText (specs : List OptionSpec) (s : String) : Argument :=
  let specs := helpSpec :: specs
  match s.toList with
  | '-' :: body =>
    if body.isEmpty then .plain s
    else if s = endMark then .endOfOptions
    else if body.head? = some 'h' then .option helpSpec (attachedToHelp (body.drop 1))
    else
      let (name, attached) := splitEquals s
      match specs.find? fun spec ↦ spec.name == s with
      | some spec => .option spec none
      | none =>
        match specs.find? fun spec ↦ spec.name == name with
        | some spec => .option spec attached
        | none =>
          let long := body.head? = some '-'
          match if long then specs.filter fun spec ↦ name.toList.isPrefixOf spec.name.toList else []
          with
          | [spec] => .option spec attached
          | _ :: _ => .ambiguous
          | [] =>
            if isNegativeNumber body || body.contains ' ' then .plain s else .unknownOption
  | _ => .plain s

/-- What arguments are taken for. -/
def Argument.ofTexts (specs : List OptionSpec) : List String → List Argument
  | [] => []
  | s :: rest =>
    match Argument.ofText specs s with
    | .endOfOptions => .endOfOptions :: rest.map .plain
    | a => a :: Argument.ofTexts specs rest

/-- Why arguments are refused, or that only help was asked for. -/
inductive Usage where
  | help
  | mistake
deriving DecidableEq, Repr

/-- Plain arguments and options with their values; an option may be given without one. -/
structure Parsed where
  plain : List String := []
  options : List (String × Option String) := []
  /-- Whether there was something that is no argument of the command. -/
  stray : Bool := false

namespace Parsed

/-- The value of an option, as it was given last. -/
def option? (p : Parsed) (name : String) : Option String := (p.options.reverse.lookup name).join

/-- Whether an option is given. -/
def has (p : Parsed) (name : String) : Bool := p.options.any fun o ↦ o.1 == name

/-- Adds the value of an option, if it will do. -/
def give (p : Parsed) (spec : OptionSpec) (value : String) : Except Usage Parsed :=
  if spec.accepts value then .ok { p with options := p.options ++ [(spec.name, some value)] }
  else .error .mistake

/-- Adds a value that is attached to an option; the mark stands for none. -/
def attach (p : Parsed) (spec : OptionSpec) (value : String) : Except Usage Parsed :=
  if value = endMark && spec.takes != .nothing then
    .ok { p with options := p.options ++ [(spec.name, none)] }
  else p.give spec value

end Parsed

/-- Takes arguments one after the other. An option that takes a value takes the plain argument after
it. The mark goes with the plain argument before or after it. -/
def collect : List Argument → Parsed → Except Usage Parsed
  | [], parsed => .ok parsed
  | .plain s :: .endOfOptions :: rest, parsed
  | .endOfOptions :: .plain s :: rest, parsed
  | .plain s :: rest, parsed => collect rest { parsed with plain := parsed.plain ++ [s] }
  | .endOfOptions :: rest, parsed => collect rest { parsed with stray := true }
  | .unknownOption :: rest, parsed => collect rest { parsed with stray := true }
  | .ambiguous :: _, _ => .error .mistake
  | .option spec (some value) :: rest, parsed =>
    match parsed.attach spec value with
    | .error usage => .error usage
    | .ok parsed => collect rest parsed
  | .option spec none :: rest, parsed =>
    if spec = helpSpec then .error .help
    else if spec.takes = .nothing then
      collect rest { parsed with options := parsed.options ++ [(spec.name, none)] }
    else
      match rest with
      | .plain value :: more =>
        match parsed.give spec value with
        | .error usage => .error usage
        | .ok parsed => collect more parsed
      | _ => .error .mistake

/-- Parses the arguments of a command that takes a number of plain arguments. -/
def parseWith (specs : List OptionSpec) (count : Nat) (args : List String) : Except Usage Parsed :=
  let arguments := Argument.ofTexts specs args
  if arguments.contains .ambiguous then .error .mistake
  else
    match collect arguments {} with
    | .error usage => .error usage
    | .ok parsed =>
      if parsed.stray || parsed.plain.length != count then .error .mistake else .ok parsed

/-- What is asked for. -/
inductive Command where
  | validate (flow : String)
  | compile (flow : String) (out : Option String)
  | generate (flow : String) (out : Option String)
  | serve (host : Option String) (port : Option Int) (reload : Bool)
deriving DecidableEq, Repr

/-- The option that names a file to write. -/
def outSpec : OptionSpec := ⟨"--out", .text⟩

/-- The options of the command that serves the editor. -/
def serveSpecs : List OptionSpec :=
  [⟨"--host", .text⟩, ⟨"--port", .integer⟩, ⟨"--reload", .nothing⟩]

/-- Parses the arguments after the name of a command. -/
def Command.parse (name : String) (args : List String) : Except Usage Command :=
  match name with
  | "validate" => (parseWith [] 1 args).map fun p ↦ .validate (p.plain.headD "")
  | "compile" =>
    (parseWith [outSpec] 1 args).map fun p ↦ .compile (p.plain.headD "") (p.option? "--out")
  | "generate" =>
    (parseWith [outSpec] 1 args).map fun p ↦ .generate (p.plain.headD "") (p.option? "--out")
  | "serve" =>
    (parseWith serveSpecs 0 args).map fun p ↦
      .serve (p.option? "--host") ((p.option? "--port").bind Number.lenientInt?)
        (p.has "--reload")
  | _ => .error .mistake

/-- The arguments of a call. -/
structure Arguments where
  logLevel : Option String
  command : Command
deriving DecidableEq, Repr

/-- The option for the log level. -/
def logLevelSpec : OptionSpec := ⟨"--log-level", .text⟩

/-- Parses the arguments up to the name of the command, and then those of the command. -/
def parseFrom (level : Option String) (stray : Bool) : List String → Except Usage Arguments
  | [] => .error .mistake
  | s :: rest =>
    match Argument.ofText [logLevelSpec] s with
    | .plain name =>
      match Command.parse name rest with
      | .error usage => .error usage
      | .ok command => if stray then .error .mistake else .ok ⟨level, command⟩
    | .option spec (some value) =>
      match ({} : Parsed).attach spec value with
      | .error usage => .error usage
      | .ok parsed => parseFrom (parsed.option? spec.name) stray rest
    | .option spec none =>
      if spec = helpSpec then .error .help
      else
        match rest with
        | value :: more =>
          match Argument.ofText [logLevelSpec] value with
          | .plain value => parseFrom (some value) stray more
          | _ => .error .mistake
        | [] => .error .mistake
    | .unknownOption => parseFrom level true rest
    | .ambiguous | .endOfOptions => .error .mistake

/-- Parses the arguments of a call. An ambiguous option is a mistake wherever it stands. -/
def Arguments.parse (args : List String) : Except Usage Arguments :=
  if (Argument.ofTexts [logLevelSpec] args).contains .ambiguous then .error .mistake
  else parseFrom none false args

end FlowCanvas.CommandLine
