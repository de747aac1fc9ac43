import FlowCanvas.Session.Basic
import FlowCanvas.Session.Route

/-!
# The interface over HTTP

What the requests of an editor do to a session: `Api.handle` answers a request. A fault of the
domain becomes a status with its wording; a fault that nobody foresaw becomes a plain status 500.
-/

namespace FlowCanvas.Api

/-- What a response carries. -/
inductive Payload where
  | empty
  | json (v : Value)
  | text (s : String)

/-- A response. -/
structure Response where
  status : Nat
  payload : Payload := .empty

/-- A response that only says something. -/
def detail (status : Nat) (message : String) : Response :=
  ⟨status, .json (.object [("detail", .text message)])⟩

/-- The response to a request without a route. -/
def noRoute : RouteFault → Response
  | .unknownPath => detail 404 "Not Found"
  | .wrongMethod => detail 405 "Method Not Allowed"

/-- The response to a fault that nobody foresaw. -/
def crash : Response := ⟨500, .text "Internal Server Error"⟩

/-- The response to a body that cannot be read, although it may be JSON. -/
def unreadable : Response := detail 400 "There was an error parsing the body"

/-! ### Bodies -/

/-- The position of a block in a body. -/
abbrev positionOf (v : Value) : Checked Point := Document.pointOf .request v

/-- What is wrong with the body of a request. -/
inductive BodyComplaint where
  /-- The body is not read at all. -/
  | unreadable
  /-- The body is not JSON from some place on. -/
  | notJson (offset : Nat)
  | missing
  /-- The body is a value of the wrong shape. -/
  | shape (v : Value) (complaints : List Shape.Complaint)

/-- Checks the body of a request. -/
def readBody {α : Type} (body : String) (check : Value → Checked α) : Except BodyComplaint α :=
  if body = "" then .error .missing
  else
    match Json.readBody body with
    | .error .undecodable => .error .unreadable
    | .error (.refused refusal) =>
      if refusal.complaint.isSyntax then .error (.notJson refusal.place.offset)
      else .error .unreadable
    | .ok v => (check v).mapError (.shape v)

/-- What a body says of a new block. -/
def newBlockOf (v : Value) : Checked (String × Option Point × Fields Value × Value) := do
  let fs ← Checked.record .request v
  (Checked.pair (Checked.required fs "pluginId" Checked.text)
    (Checked.pair (Checked.optional fs "position" positionOf)
      (Checked.pair (Checked.optional fs "data" (Checked.fields .request))
        (Checked.optional fs "label" Checked.text)))).map
    fun (type, position, data, label) ↦ (type, position, data.getD [], Value.ofText? label)

/-- What a body says of a new parent. -/
def parentOf (v : Value) : Checked (Option String × Option Point) := do
  let fs ← Checked.record .request v
  Checked.pair (Checked.optional fs "parentId" Checked.text)
    (Checked.optional fs "position" positionOf)

/-- The function that a body names. -/
def functionOf (v : Value) : Checked String := do
  let fs ← Checked.record .request v
  Checked.required fs "function" Checked.text

/-- What a body says of a new wire. -/
def newWireOf (v : Value) : Checked (String × String × Fields Value) := do
  let fs ← Checked.record .request v
  (Checked.pair (Checked.required fs "source" Checked.text)
    (Checked.pair (Checked.required fs "target" Checked.text)
      (Checked.optional fs "data" (Checked.fields .request)))).map
    fun (source, target, data) ↦ (source, target, data.getD [])

/-- What a body selects; an empty id selects nothing, and a block comes before a wire. -/
def selectionOf (v : Value) : Checked Selection := do
  let fs ← Checked.record .request v
  (Checked.pair (Checked.optional fs "nodeId" Checked.text)
    (Checked.optional fs "edgeId" Checked.text)).map fun (block, wire) ↦
    let block := block.getD ""
    let wire := wire.getD ""
    if block != "" then .block block else if wire != "" then .wire wire else .nothing

/-- The name that a body gives the flow, if any. -/
def nameOf (v : Value) : Checked (Option String) := do
  let fs ← Checked.record .request v
  (Checked.optional fs "name" Checked.text).map fun name ↦ name.filter (· != "")

/-! ### Responses -/

/-- Whether the parts of a record can be handed over. -/
def fitsParts (fields : Fields Value) : Bool :=
  fields.all fun e ↦ (Document.hindrance? e.2).isNone

/-- A response in JSON, if its parts can be handed over and written out. -/
def json (status : Nat) (v : Value) : Response :=
  let fits : Bool :=
    match v with
    | .object fields => fitsParts fields
    | .list items => items.all fun item ↦ (item.object?.map fitsParts).getD true
    | _ => true
  if fits && v.isWritable then ⟨status, .json v.portable⟩ else crash

/-- A step of a path as a value. -/
def stepValue : Shape.Step → Value
  | .key name => .text name
  | .index i => .int i

/-- The response to complaints about a body. -/
def unprocessable (complaints : List Shape.Complaint) : Response :=
  let entry (k : Shape.Complaint) : Value :=
    .object [("loc", .list (.text "body" :: k.path.map stepValue)), ("type", .text k.flaw.code)]
  ⟨422, .json (.object [("detail", .list (complaints.map entry))])⟩

/-- The part of a value at the end of a path. -/
def partAt : List Shape.Step → Value → Value
  | .key name :: rest, .object fields => partAt rest ((Fields.get? fields name).getD .null)
  | .index (.ofNat i) :: rest, .list items => partAt rest (items[i]?.getD .null)
  | _, v => v

/-- The part of a value that a complaint is about. -/
def concerned (v : Value) (k : Shape.Complaint) : Value :=
  partAt (if k.flaw = .missing then k.path.dropLast else k.path) v

/-- The response to a body that will not do. What the complaints are about is part of the response,
which JSON must be able to carry. -/
def refuseBody : BodyComplaint → Response
  | .unreadable => unreadable
  | .notJson offset => unprocessable [⟨[.index offset], .notJson⟩]
  | .missing => unprocessable [⟨[], .missing⟩]
  | .shape v complaints =>
    if complaints.any fun k ↦ (concerned v k).obstacle?.isSome then crash
    else unprocessable complaints

/-- The status of a fault of the domain and its wording. -/
def statusOf : SessionFault → Option (Nat × String)
  | .edit fault =>
    match fault.family with
    | .reference => some (404, fault.message)
    | .protection => some (409, fault.message)
    | .property | .containment => some (400, fault.message)
    | .form => none
  | .document fault => if fault.isMalformed then some (400, fault.message) else none
  | .writing _ => none
  | .lowering (.integrity fault) => some (500, fault.message)
  | .lowering .tooDeep => none
  | .service fault => if fault.isRemote then some (502, fault.message) else none

/-- The response to a fault. -/
def refusal (fault : SessionFault) : Response :=
  match statusOf fault with
  | some (status, message) => detail status message
  | none => crash

/-- A block as editors see it. -/
def blockView (s : Session) (b : Block) : Except Fault Value :=
  (s.canvas.absolute b.id).map fun spot ↦
    .object [("id", .text b.id), ("pluginId", .text b.type), ("label", b.label),
      ("position", b.position.toValue), ("absolutePosition", spot.toValue),
      ("parentNode", .ofText? b.parent), ("data", .object b.shownProperties),
      ("protected", .bool (s.canvas.isProtected s.palette b.id)),
      ("container", .bool (s.canvas.isContainer s.palette b.id))]

/-- A wire as editors see it; a wire without a kind cannot be shown. -/
def wireView (w : Wire) : Option Value :=
  w.kind.map fun kind ↦
    .object [("id", .text w.id), ("source", .text w.source), ("target", .text w.target),
      ("data", .object [("connectionType", .text kind.name),
        ("variableMapping", .object w.mapping)])]

/-- The whole flow as editors see it. -/
def flowView (s : Session) : Option Value := do
  let blocks ← s.canvas.blocks.mapM fun b ↦ (blockView s b).toOption
  let wires ← s.canvas.wires.mapM wireView
  return .object [("name", s.flowName), ("nodes", .list blocks), ("edges", .list wires),
    ("selection", .object [("nodeId", .ofText? s.canvas.selection.block?),
      ("edgeId", .ofText? s.canvas.selection.wire?)])]

/-! ### Handling -/

/-- The response of a handler, the session afterwards, and the events to be pushed. -/
structure Handled where
  response : Response
  session : Session
  events : List Event := []

/-- Answers from a turn. -/
def ofTurn {α : Type} (t : Turn α) (respond : Session → α → Response) : Handled :=
  match t.result with
  | .ok a => ⟨respond t.session a, t.session, t.events⟩
  | .error fault => ⟨refusal fault, t.session, t.events⟩

/-- Answers with the block of an id. -/
def showBlock (status : Nat) (id : String) (s : Session) : Response :=
  match s.canvas.block? id with
  | none => crash
  | some b =>
    match blockView s b with
    | .ok v => json status v
    | .error fault => refusal (.edit fault)

/-- Answers with the wire of an id. -/
def showWire (status : Nat) (id : String) (s : Session) : Response :=
  match (s.canvas.wire? id).bind wireView with
  | some v => json status v
  | none => crash

/-- Answers with the whole flow. -/
def showFlow (s : Session) : Response :=
  match flowView s with
  | some v => json 200 v
  | none => crash

/-- Answers with the log, which must be one of texts, and the terminal. -/
def showLogs (s : Session) : Response :=
  if s.logs.all fun v ↦ v.text?.isSome then
    json 200 (.object [("logs", .list s.logs), ("terminal", .list (s.terminal.map .text))])
  else crash

/-- Goes on with a checked body. -/
def withBody {α : Type} (s : Session) (body : Except BodyComplaint α) (go : α → Handled) :
    Handled :=
  match body with
  | .error complaint => ⟨refuseBody complaint, s, []⟩
  | .ok a => go a

/-- The id that an operation gave, or the one it was given. -/
def replyId (given : String) : Reply → String
  | .id id => id
  | _ => given

/-- Carries out an operation and shows the block it was about. -/
def editBlock (s : Session) (status : Nat) (id : String) (edit : Edit) : Handled :=
  ofTurn (s.perform edit) fun after reply ↦ showBlock status (replyId id reply) after

/-- Carries out an operation and shows the wire it was about. -/
def editWire (s : Session) (status : Nat) (id : String) (edit : Edit) : Handled :=
  ofTurn (s.perform edit) fun after reply ↦ showWire status (replyId id reply) after

/-- A point given as a value. -/
def pointValue (p : Point) : Value := .point p.x p.y

/-- A point that may be absent, given as a value. -/
def pointValue? : Option Point → Value
  | some p => pointValue p
  | none => .null

/-- Answers a deletion of a block. -/
def handleDelete (id : String) (s : Session) : Handled :=
  match s.canvas.block id with
  | .error fault => ⟨refusal (.edit fault), s, []⟩
  | .ok _ =>
    let t := s.delete id
    match t.result with
    | .ok true => ⟨⟨204, .empty⟩, t.session, t.events⟩
    | .ok false =>
      ⟨detail 409 s!"Node '{id}' is protected", t.session, t.events⟩
    | .error _ => ⟨crash, t.session, t.events⟩

/-- Answers a request whose route is known. -/
def handleRoute (service : Service) (clock : Clock) (body : String) (s : Session) :
    Route → Handled
  | .health => ⟨json 200 (.object [("status", .text "ok")]), s, []⟩
  | .palette => ⟨json 200 (.list (s.palette.types.map BlockType.toValue)), s, []⟩
  | .flow => ⟨showFlow s, s, []⟩
  | .program =>
    match s.program with
    | .ok program => ⟨json 200 program.toValue, s, []⟩
    | .error _ => ⟨crash, s, []⟩
  | .createBlock =>
    withBody s (readBody body newBlockOf) fun (type, position, data, label) ↦
      let block : NewBlock := ⟨type, pointValue? position, data, label⟩
      editBlock s 201 "" (if position.isSome then .drop block else .create block)
  | .deleteBlock id => handleDelete id s
  | .updateBlock id =>
    withBody s (readBody body (Checked.fields .request)) fun patch ↦
      editBlock s 200 id (.update id patch)
  | .moveBlock id =>
    withBody s (readBody body positionOf) fun p ↦ editBlock s 200 id (.move id (pointValue p))
  | .reparentBlock id =>
    withBody s (readBody body parentOf) fun (parent, position) ↦
      editBlock s 200 id (.reparent id parent (pointValue? position))
  | .bindCall id =>
    withBody s (readBody body functionOf) fun name ↦
      editBlock s 200 id (.bindCall id (.text name))
  | .createWire =>
    withBody s (readBody body newWireOf) fun (source, target, data) ↦
      editWire s 201 "" (.connect source target data)
  | .deleteWire id => ofTurn (s.perform (.disconnect id)) fun _ _ ↦ ⟨204, .empty⟩
  | .updateWire id =>
    withBody s (readBody body (Checked.fields .request)) fun patch ↦
      editWire s 200 id (.rewire id patch)
  | .candidates id =>
    match s.canvas.candidates id with
    | .ok k => ⟨json 200 k.toValue, s, []⟩
    | .error fault => ⟨refusal (.edit fault), s, []⟩
  | .select =>
    withBody s (readBody body selectionOf) fun selection ↦
      ofTurn (s.perform (.select selection)) fun _ _ ↦ ⟨204, .empty⟩
  | .save =>
    withBody s (readBody body nameOf) fun name ↦
      ofTurn ({ s with flowName := (name.map Value.text).getD s.flowName }.save clock)
        fun _ document ↦ json 200 document
  | .load =>
    withBody s (readBody body (Checked.fields .request)) fun fields ↦
      ofTurn (s.load (.object fields)) fun after _ ↦ showFlow after
  | .generate =>
    ofTurn (s.generate service) fun after code ↦
      json 200 (.object [("code", .text code), ("filename", .text s!"{after.flowName.display}.rs")])
  | .run =>
    let t := s.run service
    match t.result with
    | .ok e =>
      ⟨json 200 (.object [("result", (e.map Service.Execution.toValue).getD .null),
        ("terminal", .list (t.session.terminal.map .text))]), t.session, t.events⟩
    | .error _ => ⟨crash, t.session, t.events⟩
  | .logs => ⟨showLogs s, s, []⟩
  | .clearLogs => ⟨⟨204, .empty⟩, s.clearLogs.clearTerminal, []⟩

/-- Answers a request. The response to a question for the head of a response has no body. -/
def handle (service : Service) (clock : Clock) (request : Request) (s : Session) : Handled :=
  let h :=
    match Route.find request with
    | .error fault => ⟨noRoute fault, s, []⟩
    | .ok route => handleRoute service clock request.body s route
  if request.method = "HEAD" then { h with response := { h.response with payload := .empty } }
  else h

end FlowCanvas.Api
