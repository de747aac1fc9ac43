import FlowCanvas.Number.Numeral
import FlowCanvas.Text.Lines
import FlowCanvas.Text.Lower
import FlowCanvas.Text.Percent
import FlowCanvas.Web.Label

/-!
# Addresses

The address of something on the web: a scheme, the host with a user and a port, a path, a query and
a fragment. Reading an address brings it to one spelling. Scheme and host are in small letters, the
usual port of the scheme is left out, the path has no single or double dots for parts, and what may
not stand in a part is percent-encoded.

An address without a scheme or a host is relative: it stands for its path and query on a host that
is known otherwise.
-/

namespace FlowCanvas

open Web

/-- Why a text is no address. -/
inductive AddressFault where
  | tooLong
  | controlCharacter
  | badHost (host : String)
  | badPort (port : String)
  | badPath (path : String)
deriving DecidableEq, Repr

/-- An address. -/
structure Address where
  scheme : String := ""
  user : String := ""
  host : String := ""
  port : Option Int := none
  path : String := ""
  query : Option String := none
  fragment : Option String := none
deriving DecidableEq, Repr

namespace Address

/-! ### What may stand in an address -/

/-- Whether a character is visible and ASCII, and none of some others. -/
def visibleBut (others : String) (c : Char) : Bool :=
  0x21 ≤ c.toNat && c.toNat ≤ 0x7e && !others.toList.contains c

/-- Whether a character may stand in the name of a host. -/
def isHostPlain (c : Char) : Bool :=
  c.isAlphanum || "-._~!$&'()*+,;=\"`\x7b\x7d%|\\".toList.contains c

/-- Whether a character may stand in the part of the user. -/
def isUserPlain : Char → Bool := visibleBut "\"#<>?`\x7b\x7d/;=@[\\]^|"

/-- Whether a character may stand in a path. -/
def isPathPlain : Char → Bool := visibleBut "\"#<>?`\x7b\x7d"

/-- Whether a character may stand in a query. -/
def isQueryPlain : Char → Bool := visibleBut "\"#<>"

/-- Whether a character may stand in a fragment. -/
def isFragmentPlain : Char → Bool := visibleBut "\"<>`"

/-- Whether a character is a control character of ASCII, which no address holds. -/
def isControl (c : Char) : Bool := c.toNat < 0x20 || c.toNat = 0x7f

/-- A part of an address with what may not stand in it encoded. -/
def encoded (plain : Char → Bool) (cs : List Char) : String :=
  String.ofList (Text.percentEncode plain cs)

/-- How long the text of an address may be. -/
def longest : Nat := 65536

/-! ### Hosts -/

/-- Whether a text is an octet of a dotted address: up to 255, without zeros in front. -/
def isOctet (cs : List Char) : Bool :=
  match cs with
  | ['0'] => true
  | '0' :: _ | [] => false
  | _ => cs.length ≤ 3 && cs.all Char.isDigit && Text.digitsValue cs ≤ 255

/-- Whether a text is an address of four octets. -/
def isDotted (cs : List Char) : Bool :=
  let octets := Text.cutAt '.' cs
  octets.length == 4 && octets.all isOctet

/-- Whether a text has the look of four octets: four rows of digits with stops between them. -/
def looksDotted (cs : List Char) : Bool :=
  let rows := Text.cutAt '.' cs
  rows.length == 4 && rows.all fun row ↦ !row.isEmpty && row.all Char.isDigit

/-- Whether a text is a group of an address written in colons. -/
def isGroup (cs : List Char) : Bool :=
  !cs.isEmpty && cs.length ≤ 4 && cs.all fun c ↦ (Text.hexValue? c).isSome

/-- Whether groups fill an address of eight; one run of any may be left out, which shows as empty
groups. -/
def areGroups (groups : List (List Char)) : Bool :=
  let inner := (groups.drop 1).dropLast
  let gaps := (inner.filter List.isEmpty).length
  let first := groups.headD []
  let last := groups.getLastD []
  let given := groups.filter fun g ↦ !g.isEmpty
  3 ≤ groups.length && given.all isGroup && gaps ≤ 1 &&
    (!first.isEmpty || (groups.drop 1).head? = some []) &&
    (!last.isEmpty || groups.dropLast.getLast? = some []) &&
    if gaps = 1 then given.length ≤ 7 else groups.length == 8

/-- Whether a text is an address written in colons, the last two groups of which may be octets, and
which may name a zone after a percent sign. -/
def isColoned (cs : List Char) : Bool :=
  let zone := cs.dropWhile (· != '%')
  let groups := Text.cutAt ':' (cs.takeWhile (· != '%'))
  let last := groups.getLastD []
  let zoneFits := zone.isEmpty || (zone.length != 1 && !(zone.drop 1).contains '%')
  zoneFits &&
    if last.contains '.' then isDotted last && areGroups (groups.dropLast ++ [['0'], ['0']])
    else areGroups groups

/-- Reads a host: four octets, an address in brackets, a text in ASCII, or labels in any script. -/
def readHost (cs : List Char) : Except AddressFault String :=
  let bad := AddressFault.badHost (String.ofList cs)
  if looksDotted cs then if isDotted cs then .ok (String.ofList cs) else .error bad
  else if cs.head? = some '[' && cs.getLast? = some ']' then
    let inside := (cs.drop 1).dropLast
    if isColoned inside then .ok (String.ofList inside) else .error bad
  else if cs.all fun c ↦ c.toNat < 128 then .ok (encoded isHostPlain (cs.map Char.toLower))
  else
    match Label.encodeAll (Text.lower cs) with
    | some name => .ok (String.ofList name)
    | none => .error bad

/-! ### Ports and paths -/

/-- The usual ports of schemes. -/
def usualPorts : List (String × Int) :=
  [("ftp", 21), ("http", 80), ("https", 443), ("ws", 80), ("wss", 443)]

/-- Reads a port; the usual one of the scheme, as it is written, counts as none. -/
def readPort (scheme : String) (cs : List Char) : Except AddressFault (Option Int) :=
  if cs.isEmpty then .ok none
  else
    match Number.lenientInt? (String.ofList cs) with
    | none => .error (.badPort (String.ofList cs))
    | some port => .ok (if usualPorts.lookup scheme = some port then none else some port)

/-- Takes the parts of a path one by one onto those before, the last first. A single dot means
nothing, and two dots drop the part before, but never the beginning of the path. -/
def straighten : (done : List (List Char)) → List (List Char) → List (List Char)
  | done, [] => done.reverse
  | done, part :: rest =>
    if part = ['.'] then straighten done rest
    else if part = ['.', '.'] then straighten (if done = [[]] then done else done.drop 1) rest
    else straighten (part :: done) rest

/-- A path without single and double dots for parts. -/
def straight (path : List Char) : List Char :=
  ['/'].intercalate (straighten [] (Text.cutAt '/' path))

/-- Reads a path: after a host it begins with a slash, and without scheme and host not with two. -/
def readPath (placed hosted : Bool) (cs : List Char) : Except AddressFault String :=
  let bad :=
    if hosted then !cs.isEmpty && cs.head? != some '/'
    else !placed && (['/', '/'].isPrefixOf cs || cs.head? = some ':')
  if bad then .error (.badPath (String.ofList cs))
  else .ok (encoded isPathPlain (if placed || hosted then straight cs else cs))

/-! ### Reading -/

/-- Takes a scheme and the colon after it off a text; nothing before a colon is no scheme. -/
def takeScheme (cs : List Char) : List Char × List Char :=
  let inside (c : Char) : Bool := c.isAlphanum || c = '+' || c = '.' || c = '-'
  let name := cs.takeWhile inside
  match cs.dropWhile inside, name.head? with
  | ':' :: rest, some c => if c.isAlpha then (name, rest) else ([], cs)
  | ':' :: rest, none => ([], rest)
  | _, _ => ([], cs)

/-- Takes the host, with user and port, off a text. -/
def takeAuthority : List Char → List Char × List Char
  | '/' :: '/' :: rest =>
    let inside (c : Char) : Bool := c != '/' && c != '?' && c != '#'
    (rest.takeWhile inside, rest.dropWhile inside)
  | cs => ([], cs)

/-- The user, the host and the port in the authority of an address. -/
def cutAuthority (cs : List Char) : List Char × List Char × List Char :=
  let isHost (c : Char) : Bool := c != ':' && c != '@'
  let tail := (cs.reverse.takeWhile (· != '@')).reverse
  let user := (cs.take (cs.length - tail.length)).dropLast
  let bracketed := (tail.reverse.dropWhile (· != ']')).reverse
  let host :=
    if tail.head? = some '[' && !bracketed.isEmpty then bracketed else tail.takeWhile isHost
  match tail.drop host.length with
  | ':' :: port => (user, host, port)
  | port => (user, host, port)

/-- Reads an address. -/
def ofText (s : String) : Except AddressFault Address := do
  let cs := s.toList
  if longest < cs.length then throw .tooLong
  if cs.any isControl then throw .controlCharacter
  let (scheme, rest) := takeScheme cs
  let (authority, rest) := takeAuthority rest
  let path := rest.takeWhile fun c ↦ c != '?' && c != '#'
  let rest := rest.drop path.length
  let query : Option (List Char) :=
    if rest.head? = some '?' then some ((rest.drop 1).takeWhile (· != '#')) else none
  let rest := rest.dropWhile (· != '#')
  let fragment : Option (List Char) := if rest.isEmpty then none else some (rest.drop 1)
  let (user, host, port) := cutAuthority authority
  let user := encoded isUserPlain user
  let host ← readHost host
  let port ← readPort (String.ofList scheme) port
  let path ← readPath (!scheme.isEmpty) (user != "" || host != "" || port.isSome) path
  return {
    scheme := String.ofList (scheme.map Char.toLower)
    user := user
    host := host
    port := port
    path := path
    query := query.map (encoded isQueryPlain)
    fragment := fragment.map (encoded isFragmentPlain) }

/-! ### Writing -/

/-- The host with user and port. -/
def authority (a : Address) : String :=
  (if a.user = "" then "" else a.user ++ "@") ++
    (if a.host.toList.contains ':' then "[" ++ a.host ++ "]" else a.host) ++
    match a.port with
    | some port => s!":{port}"
    | none => ""

/-- A part that may be absent, after its mark. -/
def marked (mark : String) : Option String → String
  | some s => mark ++ s
  | none => ""

/-- The text of an address. -/
def text (a : Address) : String :=
  (if a.scheme = "" then "" else a.scheme ++ ":") ++
    (if a.authority = "" then "" else "//" ++ a.authority) ++
    a.path ++ marked "?" a.query ++ marked "#" a.fragment

/-- Whether an address needs a host that is known otherwise. -/
def isRelative (a : Address) : Bool := a.scheme = "" || a.host = ""

/-- An address seen from another; a relative one keeps its path, from the root on, and its query. -/
def seenFrom (home a : Address) : Address :=
  if !a.isRelative then a
  else
    let path := '/' :: a.path.toList.dropWhile (· = '/')
    let placed := home.scheme != "" || home.authority != ""
    { home with
      path := encoded isPathPlain (if placed then straight path else path)
      query := a.query
      fragment := none }

end Address

end FlowCanvas
