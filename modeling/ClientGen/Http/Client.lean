/-
# An HTTP client

The client reads the URL of a request, sends it in normal form, and looks at the
place that a redirecting response refers to; it follows no redirect itself.  The
transport below it is a parameter: given replies in a fixed order, or no network
at all.
-/
import ClientGen.Http.Charset
import ClientGen.Http.Exchange
import ClientGen.Url.Basic
import ClientGen.Url.Join

namespace ClientGen.Http

/-- What a transport answers: a response with its headers and the octets of its
body, an error on the way, or an error that is not one of HTTP. -/
inductive Reply
  | message (status : Int) (headers : List (Text × Text)) (body : List UInt8)
  | failed (reason : Text)
  | broke (breakdown : Breakdown)
  deriving Repr

/-- A transport: the reply to the `n`-th request, counted from zero. -/
abbrev Transport := Nat → Url → Reply

/-- A transport without network, which refuses every URL for its scheme. -/
def offline : Transport := fun _ url =>
  if url.scheme.isEmpty then
    .failed "Request URL is missing an 'http://' or 'https://' protocol."
  else .failed ("Request URL has an unsupported protocol '" ++ url.scheme ++ "://'.")

/-- A transport that gives replies in order, the last one again and again. -/
def scripted (replies : List Reply) : Transport := fun n _ =>
  match replies[n]? with
  | some reply => reply
  | none => replies.getLastD (.message 200 [] [])

/-- The value of a header; several of one name are joined by commas. -/
def header? (name : Text) (headers : List (Text × Text)) : Option Text :=
  match headers.filter fun (key, _) => Text.lowerAscii key = name with
  | [] => none
  | found => some (Text.joinWith ", " (found.map Prod.snd))

/-- Whether a response with this status sends the client elsewhere. -/
def isRedirect (status : Int) : Bool :=
  status = 301 || status = 302 || status = 303 || status = 307 || status = 308

/-- A URL without scheme or host, as a path at the root. -/
def rooted (url : Url) : Url :=
  { scheme := []
    user := []
    host := []
    port := none
    path := '/' :: url.path.dropWhile (· = '/')
    query := url.query
    fragment := none }

/-- The URL that a request to `t` goes to. -/
def target (t : Text) : Except UrlFault Url :=
  (Url.parse t).map fun url => if url.isAbsolute then url else rooted url

/-- What prevents the client from preparing the request that a redirecting
response asks for. -/
def redirectFault? (request : Url) (location : Text) : Option Outcome :=
  match Url.parse location with
  | .error fault =>
    some (.failed ("Invalid URL in location header: " ++ fault.message ++ "."))
  | .ok url =>
    let url := if ! url.scheme.isEmpty && url.host.isEmpty then { url with host := request.host }
      else url
    match Url.pathFault? (! url.scheme.isEmpty) url.hasAuthority url.path with
    | some fault => some (.failed fault.message)
    | none =>
      if url.isAbsolute then none
      else match Reference.join request.toText url.toText with
        | .error fault => some (.broke (.badValue fault.message))
        | .ok joined =>
          match Url.parse joined with
          | .error fault => some (.failed fault.message)
          | .ok _ => none

/-- The outcome of a reply to a request. -/
def outcome (request : Url) : Reply → Outcome
  | .failed reason => .failed reason
  | .broke breakdown => .broke breakdown
  | .message status headers body =>
    let location := header? "location" headers
    let response : Response :=
      { status := status
        url := request.toText
        location := location
        body := (Charset.ofContentType (header? "content-type" headers)).decode body }
    match if isRedirect status then location.bind (redirectFault? request) else none with
    | some fault => fault
    | none => .response response

/-- The client over a transport. -/
def client (transport : Transport) : HttpClient := fun n t =>
  match target t with
  | .error fault => ⟨none, .failed fault.message⟩
  | .ok url => ⟨some url.toText, outcome url (transport n url)⟩

end ClientGen.Http
