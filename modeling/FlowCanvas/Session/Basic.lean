import FlowCanvas.Canvas.Instruction
import FlowCanvas.Document.Convert
import FlowCanvas.Program.Lower
import FlowCanvas.Service.Client
import FlowCanvas.Text.Lines

/-!
# Sessions

A session is an open flow in an editor: a canvas under a name, with the log and the terminal that
the editor shows. Events of the canvas become lines of the log; what the code generator says goes to
the terminal and never to the canvas.
-/

namespace FlowCanvas

/-- Why something asked of a session was refused. -/
inductive SessionFault where
  | edit (fault : Fault)
  | document (fault : DocumentFault)
  | writing (fault : WritingFault)
  | lowering (fault : LoweringFault)
  | service (fault : ServiceFault)
deriving DecidableEq

/-- The state of an editor. The name of the flow and the lines of the log are what callers make
them, mostly texts. -/
structure Session where
  palette : Palette
  client : Client
  canvas : Canvas := {}
  flowName : Value := .text Document.defaultName
  logs : List Value := []
  terminal : List String := []
  /-- The requests sent to the code generator so far. -/
  sent : List Service.Request := []
deriving DecidableEq

/-- What a turn of a session gives: a result or a fault, the session afterwards, and the events of
the canvas. -/
structure Turn (α : Type) where
  result : Except SessionFault α
  session : Session
  events : List Event := []

/-- Changes the result of a turn. -/
def Turn.map {α β : Type} (f : α → β) (t : Turn α) : Turn β := ⟨t.result.map f, t.session, t.events⟩

namespace Session

/-! ### Log and terminal -/

/-- Adds a value to the log. -/
def note (s : Session) (v : Value) : Session := { s with logs := s.logs ++ [v] }

/-- Adds a line to the log. -/
def log (s : Session) (line : String) : Session := s.note (.text line)

/-- Shows a text on the terminal, line by line. -/
def print (s : Session) (text : String) : Session :=
  { s with terminal := s.terminal ++ Text.lines text }

/-- Empties the log. -/
def clearLogs (s : Session) : Session := { s with logs := [] }

/-- Empties the terminal. -/
def clearTerminal (s : Session) : Session := { s with terminal := [] }

/-- The line of the log that an event deserves. -/
def notice? (c : Canvas) : Event → Option String
  | .blockCreated id _ =>
    let shown := ((c.block? id).map fun b ↦ b.label.display).getD id
    some s!"Block added: {shown}"
  | .blockDeleted _ _ => some "Block deleted"
  | .wireCreated _ _ _ => some "Connection created"
  | .blockReparented id (some parent) _ _ => some s!"Block {id} moved into {parent}"
  | .blockReparented id none previous _ =>
    some s!"Block {id} moved out of {(Value.ofText? previous).display}"
  | _ => none

/-! ### Editing -/

/-- Takes over what an operation did to the canvas. -/
def accept {α : Type} (s : Session) (o : Outcome α) : Turn α where
  result := o.result.mapError .edit
  session := {
    s with
    canvas := o.canvas
    logs := s.logs ++ (o.events.filterMap (notice? o.canvas)).map .text }
  events := o.events

/-- Carries out an operation on the canvas. -/
def perform (edit : Edit) (s : Session) : Turn Reply := s.accept (s.canvas.apply s.palette edit)

/-- Deletes a block; that it is protected is only reported. Tells whether it was deleted. -/
def delete (id : String) (s : Session) : Turn Bool :=
  let o := s.canvas.deleteBlock s.palette id
  match o.result with
  | .error fault =>
    if fault.family = .protection then
      ⟨.ok false, s.log s!"Cannot delete: {fault.message}", []⟩
    else (s.accept o).map fun _ ↦ true
  | .ok () => (s.accept o).map fun _ ↦ true

/-- Carries out an instruction on the canvas. -/
def follow (instruction : Instruction) (s : Session) : Turn Reply :=
  s.accept (s.canvas.follow s.palette instruction)

/-- Deletes the block that a value names. -/
def deleteNamed (id : Value) (s : Session) : Turn Bool :=
  match s.canvas.blockNamed id with
  | .error fault => ⟨.error (.edit fault), s, []⟩
  | .ok b => s.delete b.id

/-! ### Saving and loading -/

/-- The file of the flow. -/
def fileName (s : Session) : String := s.flowName.display ++ Document.fileSuffix

/-- Saves the flow as a document, whose creation stamp the canvas keeps. -/
def save (clock : Clock) (s : Session) : Turn Value :=
  match s.canvas.document clock { name := s.flowName } s.flowName.text? with
  | .error fault => ⟨.error (.writing fault), s, []⟩
  | .ok document =>
    let kept := { s with canvas := { s.canvas with created := some document.metadata.created } }
    ⟨document.handedOver.mapError .writing, kept.log s!"Flow saved: {s.fileName}", []⟩

/-- Loads a document in place of the open flow. -/
def load (v : Value) (s : Session) : Turn Unit :=
  match Drawing.ofValue (some s.palette) v with
  | .error fault =>
    let told := if fault.isMalformed then s.log "Failed to load flow" else s
    ⟨.error (.document fault), told, []⟩
  | .ok drawing =>
    let turn := s.accept (s.canvas.load drawing)
    match turn.result with
    | .error _ => turn
    | .ok () =>
      let name := Document.firstGiven [.ofText? drawing.name] s.flowName
      let named := { turn.session with flowName := name }
      { turn with session := named.log s!"Flow loaded: {name.display}" }

/-! ### Code -/

/-- The program of the open flow. -/
def program (s : Session) : Except LoweringFault Program :=
  match s.canvas.snapshot s.flowName.text? with
  | none => .error .tooDeep
  | some d => Program.ofDrawing (some s.palette) d

/-- Has the open flow compiled. -/
def compile (service : Service) (s : Session) : Except SessionFault String × Session :=
  match s.program with
  | .error fault => (.error (.lowering fault), s)
  | .ok program =>
    let (result, sent) := s.client.compile service s.sent program.payload
    (result.mapError .service, { s with sent := sent })

/-- Whether a fault lies with the code generator. -/
def remote? : SessionFault → Option ServiceFault
  | .service fault => if fault.isRemote then some fault else none
  | _ => none

/-- Generates the code of the open flow. -/
def generate (service : Service) (s : Session) : Turn String :=
  let (result, after) := (s.log "Generating Rust code...").compile service
  match result with
  | .ok code => ⟨.ok code, after.log s!"Code generated: {Text.countLines code} line(s)", []⟩
  | .error fault =>
    match remote? fault with
    | some f => ⟨.error fault, (after.log "Code generation failed").print f.message, []⟩
    | none => ⟨.error fault, after, []⟩

/-- The prompt of the terminal. -/
def prompt : String := "$ "

/-- What the service says of a compilation without warnings; it is not shown. -/
def noWarnings : String := "Compilation successful (no warnings)"

/-- Shows the result of running code. -/
def report (e : Service.Execution) (s : Session) : Session :=
  let shown (s : Session) (text : String) : Session := if text = "" then s else s.print text
  if e.success then
    let compiled := s.log "Compilation succeeded"
    let quiet := if e.compileOutput = noWarnings then "" else e.compileOutput
    (shown (shown compiled quiet) e.executionOutput).log "Execution finished"
  else shown (s.log "Compilation failed") e.compileOutput

/-- Ends a run that the code generator failed. -/
def giveUp (s : Session) (fault : ServiceFault) : Session :=
  ((s.log "Execution failed").print fault.message).print prompt

/-- Generates, compiles and runs the open flow. A failure of the code generator is shown on the
terminal and gives no result. -/
def run (service : Service) (s : Session) : Turn (Option Service.Execution) :=
  let (result, after) := (s.log "Generating and running code...").clearTerminal.compile service
  match result with
  | .error fault =>
    match remote? fault with
    | some f => ⟨.ok none, after.giveUp f, []⟩
    | none => ⟨.error fault, after, []⟩
  | .ok code =>
    let name := s.flowName.display
    let ready := (after.log "Code generated").print s!"$ rustc {name}.rs && ./{name}"
    let (result, sent) := s.client.execute service ready.sent (.text code) s.flowName
    let done := { ready with sent := sent }
    match result with
    | .error fault =>
      if fault.isRemote then ⟨.ok none, done.giveUp fault, []⟩
      else ⟨.error (.service fault), done, []⟩
    | .ok e => ⟨.ok (some e), (done.report e).print prompt, []⟩

end Session

end FlowCanvas
