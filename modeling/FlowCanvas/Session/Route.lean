import FlowCanvas.Text.Upper
import FlowCanvas.Web.Address

/-!
# Requests and routes

What an editor asks of a session is sent to an address as a `Call` and arrives at a path as a
`Request`. `Route.find` says what the method and the path of a request mean.

A path is decoded twice, once as an address and once as a path. A path with slashes at its end leads
to the path without them, from where the call is made again.
-/

namespace FlowCanvas.Api

/-- A request as it arrives. Without a body the text is empty. -/
structure Request where
  method : String
  path : List Char
  body : String := ""
deriving DecidableEq, Repr

/-! ### Routes -/

/-- What a request asks for. -/
inductive Route where
  | health
  | palette
  | flow
  | program
  | createBlock
  | deleteBlock (id : String)
  | updateBlock (id : String)
  | moveBlock (id : String)
  | reparentBlock (id : String)
  | bindCall (id : String)
  | createWire
  | deleteWire (id : String)
  | updateWire (id : String)
  | candidates (id : String)
  | select
  | save
  | load
  | generate
  | run
  | logs
  | clearLogs
deriving DecidableEq, Repr

/-- The routes of a path, with their methods. -/
def Route.ofPath : List String → List (String × Route)
  | ["health"] => [("GET", .health)]
  | ["plugins"] => [("GET", .palette)]
  | ["flow"] => [("GET", .flow)]
  | ["flow", "ir"] => [("GET", .program)]
  | ["flow", "save"] => [("POST", .save)]
  | ["flow", "load"] => [("POST", .load)]
  | ["flow", "generate"] => [("POST", .generate)]
  | ["flow", "run"] => [("POST", .run)]
  | ["nodes"] => [("POST", .createBlock)]
  | ["nodes", id] => [("DELETE", .deleteBlock id), ("PATCH", .updateBlock id)]
  | ["nodes", id, "position"] => [("PUT", .moveBlock id)]
  | ["nodes", id, "parent"] => [("PUT", .reparentBlock id)]
  | ["nodes", id, "call-target"] => [("POST", .bindCall id)]
  | ["edges"] => [("POST", .createWire)]
  | ["edges", id] => [("DELETE", .deleteWire id), ("PATCH", .updateWire id)]
  | ["edges", id, "suggestions"] => [("GET", .candidates id)]
  | ["selection"] => [("PUT", .select)]
  | ["logs"] => [("GET", .logs), ("DELETE", .clearLogs)]
  | _ => []

/-- The routes of the parts of a path; a line feed at the end of a fixed part does not count. -/
def Route.ofParts (parts : List String) : List (String × Route) :=
  match Route.ofPath parts with
  | [] =>
    match parts.getLast?.map String.toList with
    | some last =>
      if last.getLast? = some '\n' then
        Route.ofPath (parts.dropLast ++ [String.ofList last.dropLast])
      else []
    | none => []
  | routes => routes

/-- The routes of a path; all of them are below `/api`, and no part is empty. -/
def Route.ofChars (path : List Char) : List (String × Route) :=
  match (Text.cutAt '/' path).map String.ofList with
  | "" :: "api" :: parts => if parts.contains "" then [] else Route.ofParts parts
  | _ => []

/-- Why there is no route for a request. -/
inductive RouteFault where
  | unknownPath
  | wrongMethod
deriving DecidableEq, Repr

/-- The route of a request. -/
def Route.find (r : Request) : Except RouteFault Route :=
  match Route.ofChars r.path with
  | [] => .error .unknownPath
  | routes =>
    match routes.lookup r.method with
    | some route => .ok route
    | none => .error .wrongMethod

/-! ### Calls -/

/-- A request as it is sent. -/
structure Call where
  method : String
  address : Address
  body : String := ""
deriving DecidableEq, Repr

/-- The address at which requests arrive. -/
def home : Address := { scheme := "http", host := "localhost" }

/-- Reads a call; the path may be any address. -/
def Call.read (method path body : String) : Except AddressFault Call :=
  (Address.ofText path).map fun a ↦ ⟨Text.upper method, home.seenFrom a, body⟩

/-- Why a call does not arrive. -/
inductive CallFault where
  /-- The scheme of the address is not spoken here. -/
  | unknownScheme
  /-- The scheme asks for a lasting connection, and not for an answer. -/
  | lasting
  /-- The host is written in colons, which are taken for a port. -/
  | badPort
  /-- A call is sent on with a fragment that cannot stand in an address. -/
  | badFragment
  /-- A call is sent on to what is no address. -/
  | badLocation (why : AddressFault)
  | tooManyRedirects
deriving DecidableEq, Repr

/-- Checks that a call to an address is answered at all. -/
def checkAddress (a : Address) : Except CallFault Unit :=
  let lasting : Bool := ["ws", "wss"].contains a.scheme
  if !lasting && a.scheme != "http" && a.scheme != "https" then .error .unknownScheme
  else if a.host.toList.contains ':' then .error .badPort
  else if lasting then .error .lasting
  else .ok ()

/-- The path of an address, decoded. -/
def pathOf (a : Address) : List Char := Text.percentDecode (Text.percentDecode a.path.toList)

/-- The path that a path without a route leads to: the one without the slashes at its end, if that
has routes. -/
def redirect? (path : List Char) : Option (List Char) :=
  let trimmed := Text.trimEnd (· = '/') path
  if (Route.ofChars path).isEmpty && trimmed != path && !(Route.ofChars trimmed).isEmpty then
    some trimmed
  else none

/-- Whether a character stands in the path of a redirected address as it is. -/
def isRedirectPlain (c : Char) : Bool := c.isAlphanum || "_.-~/".toList.contains c

/-- The address of a path on the host of another address. The fragment goes with it, decoded
once. -/
def redirected (a : Address) (path : List Char) : Except CallFault Address := do
  let root : Address := { scheme := a.scheme, host := a.host, port := a.port }
  let text := root.text ++ Address.encoded isRedirectPlain path ++ Address.marked "?" a.query
  let b ← (Address.ofText text).mapError .badLocation
  let fragment := Text.percentDecode (a.fragment.getD "").toList
  if fragment.isEmpty then return b
  if fragment.any Address.isControl then throw .badFragment
  return { b with fragment := some (Address.encoded Address.isFragmentPlain fragment) }

/-- The path at which a call to an address arrives after so many redirects at most. -/
def arrivalOf : (redirects : Nat) → Address → Except CallFault (List Char)
  | redirects, a => do
    checkAddress a
    match redirect? (pathOf a), redirects with
    | none, _ => return pathOf a
    | some path, redirects + 1 => arrivalOf redirects (← redirected a path)
    | some _, 0 => throw .tooManyRedirects

/-- How often a call may be redirected. -/
def mostRedirects : Nat := 20

/-- The request as which a call arrives. -/
def Call.arrive (c : Call) : Except CallFault Request :=
  (arrivalOf mostRedirects c.address).map fun path ↦ ⟨c.method, path, c.body⟩

end FlowCanvas.Api
