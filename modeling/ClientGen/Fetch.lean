/-
# Fetching a document

A document is the object that a JSON text denotes; any other value at the top is
refused.

The text is that of a local file or of the final response of a chain of
redirects.  A path to a file that exists is read as such, unless it looks like a
web URL.  Each place that a response refers to is requested anew, as long as the
limit allows; the first other response decides.
-/
import ClientGen.Files.Tree
import ClientGen.Http.Exchange
import ClientGen.Text.Lines
import ClientGen.Url.Join
import ClientGen.Value.Json

namespace ClientGen

namespace Document

/-- The document that a JSON text denotes; `source` is where the text is from. -/
def parse (content source : Text) : Except GenError Fields :=
  match Json.parse content with
  | .ok (.obj fields) => .ok fields
  | .ok v => .error (.failure (.notAnObject v))
  | .error (.tooManyDigits count) =>
    .error (.breakdown (.badValue (Numeral.tooManyDigits count)))
  | .error fault => .error (.failure (.malformed source fault.message))

/-- A value as a document, which only an object is. -/
def ofValue : Value → Except GenError Fields
  | .obj fields => .ok fields
  | v => .error (.breakdown (.noMember v.typeName "get"))

end Document

namespace Fetch

/-- The limit of redirects where none is given. -/
def defaultLimit : Int := 10

/-- What has come of fetching: the document or an error, the URLs asked for, the
URLs as they were sent, and the log. -/
structure Fetched where
  result : Except GenError Fields
  asked : List Text := []
  sent : List Text := []
  log : List LogEntry := []

/-- Whether a response refers to another place. -/
def redirects (r : Response) : Option Text :=
  if 300 ≤ r.status ∧ r.status < 400 then r.location.filter (! ·.isEmpty) else none

/-- The document of a final response to a request for a URL. -/
def final (url : Text) (r : Response) : Except GenError Fields :=
  if r.status ≥ 400 then .error (.failure (.httpStatus r.status url))
  else Document.parse r.body url

/-- The result that an outcome without a redirect decides. -/
def decide (url : Text) : Outcome → Except GenError Fields
  | .failed reason => .error (.failure (.unreachable url reason))
  | .broke breakdown => .error (.breakdown breakdown)
  | .response r => final url r

/-- The note about a request. -/
def requestNote (url : Text) : LogEntry := .debug ("GET " ++ url)

/-- The note about a redirect. -/
def redirectNote (status : Int) (url : Text) : LogEntry :=
  .debug ("Redirect " ++ Text.ofInt status ++ " -> " ++ url)

/-- The place that an outcome refers to, with the response. -/
def referral? : Outcome → Option (Response × Text)
  | .response r => (redirects r).map fun place => (r, place)
  | _ => none

/-- Requests `url` as request number `n` and follows up to `left` redirects. -/
def follow (client : HttpClient) (limit : Int) : Nat → Nat → Text → Fetched
  | left, n, url =>
    let exchange := client n url
    let sent := exchange.sent.toList
    match referral? exchange.outcome with
    | none => ⟨decide url exchange.outcome, [url], sent, [requestNote url]⟩
    | some (r, place) =>
      match left with
      | 0 => ⟨.error (.failure (.tooManyRedirects url limit)), [url], sent, [requestNote url]⟩
      | left + 1 =>
        match Reference.join r.url place with
        | .error fault =>
          ⟨.error (.breakdown (.badValue fault.message)), [url], sent, [requestNote url]⟩
        | .ok next =>
          let rest := follow client limit left (n + 1) next
          ⟨rest.result, url :: rest.asked, sent ++ rest.sent,
            requestNote url :: redirectNote r.status next :: rest.log⟩

/-- Fetches a document from a URL with at most `limit` redirects. -/
def fromNetwork (client : HttpClient) (limit : Int) (url : Text) : Fetched :=
  follow client limit limit.toNat 0 url

/-- Reads a document from a file. -/
def fromFile (tree : FileTree) (path : Text) : Except GenError Fields :=
  match tree.read path with
  | .error (.fault fault) => .error (.failure (.unreadableFile path fault))
  | .error .nullCharacter => .error (.breakdown .nullCharacter)
  | .ok octets =>
    match Utf8.decode octets with
    | .error flaw => .error (.breakdown (.undecodable flaw))
    | .ok text => Document.parse (Text.unifyNewlines text) path

/-- Whether a text looks like a web URL. -/
def isWebUrl (url : Text) : Bool :=
  (Text.dropStart? "http://" url).isSome || (Text.dropStart? "https://" url).isSome

/-- Whether a document is read from a file. -/
def isLocal (tree : FileTree) (url : Text) : Bool := ! isWebUrl url && tree.hasFile url

/-- Fetches a document from a file or from a URL. -/
def document (tree : FileTree) (client : HttpClient) (limit : Int) (url : Text) : Fetched :=
  if isLocal tree url then { result := fromFile tree url } else fromNetwork client limit url

end Fetch

end ClientGen
