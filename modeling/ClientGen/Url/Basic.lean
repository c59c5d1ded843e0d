/-
# URLs

A URL in normal form: the scheme and the host in lower case, the default port of
the scheme left out, dot segments of the path resolved, and every part
percent-encoded.  A text is read in two cuts, first at the delimiters of the
parts and then within the authority, and each part is normalised by its own
rule.
-/
import ClientGen.Url.Address
import ClientGen.Url.Percent
import ClientGen.Url.HostName
import ClientGen.Number.Numeral
import ClientGen.Source.Literal
import ClientGen.Text.Case

namespace ClientGen

/-- A URL in normal form.  A part that is a text is empty where it is missing; a
query and a fragment may be there and empty. -/
structure Url where
  scheme : Text
  user : Text
  host : Text
  port : Option Int
  path : Text
  query : Option Text
  fragment : Option Text
  deriving DecidableEq, Repr

/-- Why a text is no URL. -/
inductive UrlFault
  | tooLong
  | control (c : Char) (position : Nat)
  | badPort (port : Text)
  | badVersion4 (host : Text)
  | badVersion6 (host : Text)
  | badHostName (host : Text)
  | pathWithoutSlash
  | pathWithTwoSlashes
  | pathWithColon
  deriving DecidableEq, Repr

/-- The wording of a fault. -/
def UrlFault.message : UrlFault → Text
  | .tooLong => "URL too long"
  | .control c position =>
    "Invalid non-printable ASCII character in URL, " ++ Literal.encode [c] ++ " at position " ++
      Text.ofNat position ++ "."
  | .badPort port => "Invalid port: " ++ Literal.encode port
  | .badVersion4 host => "Invalid IPv4 address: " ++ Literal.encode host
  | .badVersion6 host => "Invalid IPv6 address: " ++ Literal.encode host
  | .badHostName host => "Invalid IDNA hostname: " ++ Literal.encode host
  | .pathWithoutSlash => "For absolute URLs, path must be empty or begin with '/'"
  | .pathWithTwoSlashes => "Relative URLs cannot have a path starting with '//'"
  | .pathWithColon => "Relative URLs cannot have a path starting with ':'"

namespace Url

/-- The greatest length of a URL. -/
def maxLength : Nat := 65536

/-- Whether `c` is an ASCII control character. -/
def isControl (c : Char) : Bool := c.toNat < 0x20 || c.toNat == 0x7F

/-- Whether `c` may stand in a scheme. -/
def isSchemeChar (c : Char) : Bool := Text.isAsciiWord c || c = '+' || c = '.' || c = '-'

/-- The scheme, which may be empty, and what follows its colon; without a colon
after a scheme there is none. -/
def cutScheme (t : Text) : Text × Text :=
  let name := t.takeWhile isSchemeChar
  match t.dropWhile isSchemeChar with
  | ':' :: rest => if name.head?.all Text.isAsciiLetter then (name, rest) else ([], t)
  | _ => ([], t)

/-- Whether `c` ends an authority. -/
def endsAuthority (c : Char) : Bool := c = '/' || c = '?' || c = '#'

/-- The authority, if two slashes come first, and what follows it. -/
def cutAuthority : Text → Text × Text
  | '/' :: '/' :: rest =>
    (rest.takeWhile (! endsAuthority ·), rest.dropWhile (! endsAuthority ·))
  | t => ([], t)

/-- The text before the last `sep` and the text after it, if there is one. -/
def cutAtLast (sep : Char) (t : Text) : Option (Text × Text) :=
  match Text.cutAt sep t.reverse with
  | (after, some before) => some (before.reverse, after.reverse)
  | (_, none) => none

/-- The host that an authority without user begins with, and the rest: all up to
the last closing bracket after an opening one, else all up to a colon. -/
def cutHost (t : Text) : Text × Text :=
  let isInside (c : Char) : Bool := ! (c = ':' || c = '@')
  let plain := (t.takeWhile isInside, t.dropWhile isInside)
  match t with
  | '[' :: _ =>
    match cutAtLast ']' t with
    | some (inside, rest) => (inside ++ [']'], rest)
    | none => plain
  | _ => plain

/-- The user, the host and the port of an authority. -/
def cutUser (authority : Text) : Text × Text × Text :=
  let (user, rest) := (cutAtLast '@' authority).getD ([], authority)
  match cutHost rest with
  | (host, ':' :: port) => (user, host, port)
  | (host, port) => (user, host, port)

/-- The default ports of schemes. -/
def defaultPorts : List (Text × Int) :=
  [("ftp", 21), ("http", 80), ("https", 443), ("ws", 80), ("wss", 443)]

/-- A port in normal form: none where it is empty or the default of the scheme. -/
def normalPort (scheme port : Text) : Except UrlFault (Option Int) :=
  if port.isEmpty then .ok none
  else match Numeral.integer? port with
    | none => .error (.badPort port)
    | some n => .ok (if defaultPorts.lookup scheme = some n then none else some n)

/-- A host in normal form. -/
def normalHost (host : Text) : Except UrlFault Text :=
  if Address.looksLikeVersion4 host then
    if Address.isVersion4 host then .ok host else .error (.badVersion4 host)
  else match host, host.getLast? with
    | '[' :: _ :: _, some ']' =>
      let inside := (host.drop 1).dropLast
      if Address.isVersion6 inside then .ok inside else .error (.badVersion6 host)
    | _, _ =>
      if host.all (·.toNat < 0x80) then .ok (Percent.encode Percent.hostSafe (Text.lowerAscii host))
      else match HostName.encode? (Text.lower host) with
        | some name => .ok name
        | none => .error (.badHostName host)

/-- Drops a segment unless only the root is left. -/
def dropSegment (segments : List Text) : List Text :=
  if segments = [[]] then segments else segments.dropLast

/-- A path with its dot segments resolved. -/
def normalPath (path : Text) : Text :=
  Text.joinWith "/" ((Text.splitAt '/' path).foldl (fun output segment =>
    if segment = ".".toList then output
    else if segment = "..".toList then dropSegment output
    else output ++ [segment]) [])

/-- What is wrong with a path after a scheme or an authority, or without them. -/
def pathFault? (hasScheme hasAuthority : Bool) (path : Text) : Option UrlFault :=
  if hasAuthority then
    if path.isEmpty || path.head? = some '/' then none else some .pathWithoutSlash
  else if hasScheme then none
  else if (Text.dropStart? "//" path).isSome then some .pathWithTwoSlashes
  else if path.head? = some ':' then some .pathWithColon
  else none

/-- The fragment, query and path that a text is made up of. -/
def cutPath (t : Text) : Text × Option Text × Option Text :=
  let (t, fragment) := Text.cutAt '#' t
  let (path, query) := Text.cutAt '?' t
  (path, query, fragment)

/-- Whether a URL has an authority. -/
def hasAuthority (u : Url) : Bool := ! u.user.isEmpty || ! u.host.isEmpty || u.port.isSome

/-- Checks and normalises the path, query and fragment of a URL that has its
scheme and authority. -/
def completeWith (u : Url) (path : Text) (query fragment : Option Text) : Except UrlFault Url :=
  match pathFault? (! u.scheme.isEmpty) u.hasAuthority path with
  | some fault => .error fault
  | none =>
    let resolved := if ! u.scheme.isEmpty || u.hasAuthority then normalPath path else path
    .ok { u with
      path := Percent.encode Percent.pathSafe resolved
      query := query.map (Percent.encode Percent.querySafe)
      fragment := fragment.map (Percent.encode Percent.fragmentSafe) }

/-- The first control character of a text, with its position. -/
def findControl? (t : Text) : Option (Char × Nat) :=
  (t.find? isControl).map fun c => (c, (t.takeWhile (! isControl ·)).length)

/-- The URL that a text denotes. -/
def parse (t : Text) : Except UrlFault Url := do
  if t.length > maxLength then throw .tooLong
  if let some (c, position) := findControl? t then throw (.control c position)
  let (scheme, rest) := cutScheme t
  let (authority, rest) := cutAuthority rest
  let (path, query, fragment) := cutPath rest
  let (user, host, port) := cutUser authority
  let normal ← normalHost host
  let portNumber ← normalPort scheme port
  completeWith
    { scheme := Text.lowerAscii scheme
      user := Percent.encode Percent.userSafe user
      host := normal
      port := portNumber
      path := []
      query := none
      fragment := none } path query fragment

/-- Whether a URL has both a scheme and a host. -/
def isAbsolute (u : Url) : Bool := ! u.scheme.isEmpty && ! u.host.isEmpty

/-- The authority of a URL. -/
def authority (u : Url) : Text :=
  (if u.user.isEmpty then [] else u.user ++ ['@']) ++
    (if u.host.elem ':' then '[' :: u.host ++ [']'] else u.host) ++
    (match u.port with
     | none => []
     | some n => ':' :: Text.ofInt n)

/-- The text of a URL. -/
def toText (u : Url) : Text :=
  (if u.scheme.isEmpty then [] else u.scheme ++ [':']) ++
    (if u.authority.isEmpty then [] else '/' :: '/' :: u.authority) ++ u.path ++
    (match u.query with
     | none => []
     | some q => '?' :: q) ++
    (match u.fragment with
     | none => []
     | some f => '#' :: f)

end Url

end ClientGen
