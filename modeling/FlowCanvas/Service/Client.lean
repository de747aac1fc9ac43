import FlowCanvas.Json.Reader
import FlowCanvas.Text.Blank
import FlowCanvas.Value.Display
import FlowCanvas.Value.Equal
import FlowCanvas.Value.Portable
import FlowCanvas.Web.Address

/-!
# The code generator

Code is generated and run by a service over HTTP, which takes a program at `/compile` and code at
`/execute`. Nothing is retried, and everything that goes wrong (no connection, a status of failure,
a body that is not what was agreed) becomes a `ServiceFault` with the text that the service gave.

A service is seen here through its answers: `Service` gives the answer to a request after those that
came before it.
-/

namespace FlowCanvas

/-- A request to the service. -/
structure Service.Request where
  method : String
  url : String
  body : Value
deriving DecidableEq

/-- What came of a request. -/
inductive Service.Exchange where
  /-- The request did not get through. -/
  | failed (message : String)
  | answered (status : Int) (text : String)
deriving DecidableEq, Repr

/-- A service: what came of a request, given those before it. -/
abbrev Service := (before : List Service.Request) → Service.Request → Service.Exchange

/-- What keeps a payload from being sent. -/
inductive Service.Unsendable where
  /-- JSON cannot carry it. -/
  | obstacle (what : Value.Obstacle)
  /-- An integer is too long to be written out. -/
  | overlong
  /-- It is nested too deeply. -/
  | tooDeep
deriving DecidableEq, Repr

/-- Why a call of the service gave no result. -/
inductive ServiceFault where
  | unreachable (path message : String)
  /-- The service answered with a status of failure. -/
  | refused (status : Int) (detail : String)
  | notJson (path text : String)
  | notObject (path text : String)
  | noCode (body : Value)
  /-- The payload is no record. -/
  | notRecord
  /-- A part of the payload that should be a list has no size. -/
  | unsized (key : String)
  /-- The payload cannot be sent. -/
  | unsendable (why : Service.Unsendable)
  /-- There can be no service at the address. -/
  | badAddress (why : AddressFault)
  /-- The service answered, but the address does not name its host. -/
  | noHost
  /-- The answer is nested too deeply. -/
  | tooDeep
deriving DecidableEq

namespace ServiceFault

/-- The wording of a fault. -/
def message : ServiceFault → String
  | unreachable path message => s!"{path}: {message}"
  | refused _ detail => detail
  | notJson path text => s!"{path}: response is not JSON: {text}"
  | notObject path text => s!"{path}: expected a JSON object, got {text}"
  | noCode body => s!"/compile: response has no code: {body.inspect}"
  | notRecord => "payload is no record"
  | unsized key => s!"payload has no list of {key}"
  | unsendable (.obstacle .notFinite) => "payload holds a number that is not finite"
  | unsendable (.obstacle .live) => "payload holds a live value"
  | unsendable .overlong => "payload holds an integer that is too long"
  | unsendable .tooDeep => "payload is nested too deeply"
  | badAddress _ => "not an address"
  | noHost => "address without a host"
  | tooDeep => "answer is nested too deeply"

/-- The status of a refusal. -/
def status? : ServiceFault → Option Int
  | refused status _ => some status
  | _ => none

/-- Whether the fault is the service's, and not one of the payload, the address or the reader. -/
def isRemote : ServiceFault → Bool
  | notRecord | unsized _ | unsendable _ | badAddress _ | noHost | tooDeep => false
  | _ => true

end ServiceFault

namespace Service

/-! ### Answers -/

/-- Whether a status says that the request failed. -/
def isFailure (status : Int) : Bool := 400 ≤ status && status < 600

/-- The value that a text holds, if it is JSON. -/
def readText (text : String) : Except ServiceFault (Option Value) :=
  match Json.readBody text with
  | .ok v => .ok (some v)
  | .error (.refused ⟨.tooDeep, _⟩) => .error .tooDeep
  | .error _ => .ok none

/-- The text that a refusal gives: the error that the body names, or the body. -/
def refusalText (status : Int) (text : String) : Option Value → String
  | none => if text = "" then s!"HTTP {status}" else text
  | some (.object fields) =>
    match Fields.get? fields "error" with
    | some v => v.display
    | none => text
  | some _ => text

/-- The object that an answer carries. -/
def readObject (path : String) : Exchange → Except ServiceFault (Fields Value)
  | .failed message => .error (.unreachable path message)
  | .answered status text =>
    match readText text with
    | .error fault => .error fault
    | .ok body =>
      if isFailure status then .error (.refused status (refusalText status text body))
      else
        match body with
        | none => .error (.notJson path text)
        | some (.object fields) => .ok fields
        | some _ => .error (.notObject path text)

/-- The path at which programs are compiled. -/
def compilePath : String := "/compile"

/-- The path at which code is run. -/
def executePath : String := "/execute"

/-- The code that an answer to a program carries. -/
def readCode (e : Exchange) : Except ServiceFault String :=
  match readObject compilePath e with
  | .error fault => .error fault
  | .ok fields =>
    match Fields.get? fields "code" with
    | some (.text code) => .ok code
    | _ => .error (.noCode (.object fields))

/-- What running code gave. -/
structure Execution where
  success : Bool
  compileOutput : String := ""
  executionOutput : String := ""
  error : Value := .null
deriving DecidableEq

namespace Execution

/-- A field as text; what does not count as given is empty. -/
def outputOf (fields : Fields Value) (key : String) : String :=
  match Fields.get? fields key with
  | some v => if v.truthy then v.display else ""
  | none => ""

/-- Reads the result of running code. -/
def ofFields (fields : Fields Value) : Execution where
  success := ((Fields.get? fields "success").getD (.bool false)).truthy
  compileOutput := outputOf fields "compile_output"
  executionOutput := outputOf fields "execution_output"
  error := (Fields.get? fields "error").getD .null

/-- The record of the result. -/
def toValue (e : Execution) : Value :=
  .object [("success", .bool e.success), ("compile_output", .text e.compileOutput),
    ("execution_output", .text e.executionOutput), ("error", e.error)]

end Execution

/-- The result that an answer to code carries. -/
def readExecution (e : Exchange) : Except ServiceFault Execution :=
  (readObject executePath e).map Execution.ofFields

/-! ### Calls -/

/-- Whether a value has a size. -/
def isSized : Value → Bool
  | .text _ | .list _ | .object _ => true
  | _ => false

/-- Checks that a program payload has lists for its parts. -/
def checkSizes (payload : Fields Value) : Except ServiceFault Unit :=
  let sized (key : String) : Bool := isSized ((Fields.get? payload key).getD (.list []))
  if !sized "nodes" then .error (.unsized "nodes")
  else if !sized "connections" then .error (.unsized "connections")
  else .ok ()

/-- What keeps a single value from being sent, whatever stands inside it. -/
def unsendable? : Value → Option Unsendable
  | .float x => if x.isFinite then none else some (.obstacle .notFinite)
  | .int n => if Number.isWritable n then none else some .overlong
  | .argument _ _ | .point _ _ | .callback => some (.obstacle .live)
  | _ => none

/-- Checks that a payload can be sent. -/
def checkPayload (payload : Fields Value) : Except ServiceFault Unit :=
  match (Value.object payload).firstFault? unsendable? .tooDeep Value.greatestText with
  | some why => .error (.unsendable why)
  | none => .ok ()

end Service

/-- A client of the service at a base address. -/
structure Client where
  baseUrl : String
deriving DecidableEq, Repr

namespace Client

/-- The client of an address; slashes at its end are dropped. -/
def ofUrl (url : String) : Client := ⟨String.ofList (Text.trimEnd (· = '/') url.toList)⟩

/-- The address of a path below the base address. -/
def addressOf (c : Client) (path : String) : Except ServiceFault Address :=
  (Address.ofText (c.baseUrl ++ path)).mapError .badAddress

/-- A request that posts a payload to an address. -/
def post (address : Address) (payload : Fields Value) : Except ServiceFault Service.Request :=
  (Service.checkPayload payload).map fun _ ↦
    ⟨"POST", (Address.seenFrom {} address).text, .object payload⟩

/-- What came of a request to an address; an answer that comes from no host is not accepted. -/
def accepted (address : Address) : Service.Exchange → Except ServiceFault Service.Exchange
  | .answered status text =>
    if address.isRelative then .error .noHost else .ok (.answered status text)
  | .failed message => .ok (.failed message)

/-- Calls the service: the result, and all requests sent so far. -/
def call {α : Type} (c : Client) (service : Service) (sent : List Service.Request) (path : String)
    (payload : Fields Value) (read : Service.Exchange → Except ServiceFault α) :
    Except ServiceFault α × List Service.Request :=
  match c.addressOf path with
  | .error fault => (.error fault, sent)
  | .ok address =>
    match post address payload with
    | .error fault => (.error fault, sent)
    | .ok request => (accepted address (service sent request) >>= read, sent ++ [request])

/-- Compiles a program payload. -/
def compile (c : Client) (service : Service) (sent : List Service.Request)
    (payload : Fields Value) : Except ServiceFault String × List Service.Request :=
  match Service.checkSizes payload with
  | .error fault => (.error fault, sent)
  | .ok () => c.call service sent Service.compilePath payload Service.readCode

/-- Compiles a payload that may be anything. -/
def compileValue (c : Client) (service : Service) (sent : List Service.Request)
    (payload : Value) : Except ServiceFault String × List Service.Request :=
  match payload with
  | .object fields => c.compile service sent fields
  | _ => (.error .notRecord, sent)

/-- Runs code under a file name. -/
def execute (c : Client) (service : Service) (sent : List Service.Request)
    (code file : Value) : Except ServiceFault Service.Execution × List Service.Request :=
  c.call service sent Service.executePath [("code", code), ("filename", file)]
    Service.readExecution

end Client

end FlowCanvas
