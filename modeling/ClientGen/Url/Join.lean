/-
# Joining a reference to a URL

The URL that a reference means, seen from a base URL.  Both are cut into their
parts; the reference supplies the parts that it has, and a path that does not
begin with a slash continues the directory of the base.  A reference with a
scheme of its own, or with one that has no hierarchical form, is taken as it
stands.

The join works on the texts and encodes nothing.
-/
import ClientGen.Url.Address
import ClientGen.Source.Literal
import ClientGen.Text.Case

namespace ClientGen

/-- Why a reference cannot be joined. -/
inductive ReferenceFault
  | badBrackets
  | notAnAddress (host : Text)
  | version4InBrackets
  | badFutureAddress
  | badCharacters (authority : Text)
  deriving DecidableEq, Repr

/-- The wording of a fault. -/
def ReferenceFault.message : ReferenceFault → Text
  | .badBrackets => "Invalid IPv6 URL"
  | .notAnAddress host => Literal.encode host ++ " does not appear to be an IPv4 or IPv6 address"
  | .version4InBrackets => "An IPv4 address cannot be in brackets"
  | .badFutureAddress => "IPvFuture address is invalid"
  | .badCharacters authority =>
    "netloc '" ++ authority ++ "' contains invalid characters under NFKC normalization"

/-- The parts of a reference, each empty where it is missing. -/
structure Reference where
  scheme : Text
  authority : Text
  path : Text
  params : Text
  query : Text
  fragment : Text
  deriving DecidableEq, Repr

namespace Reference

/-- The schemes with relative references. -/
def relativeSchemes : List Text :=
  List.map String.toList
    ["", "ftp", "http", "gopher", "nntp", "imap", "wais", "file", "https", "shttp", "mms",
     "prospero", "rtsp", "rtsps", "rtspu", "sftp", "svn", "svn+ssh", "ws", "wss"]

/-- The schemes with an authority. -/
def authoritySchemes : List Text :=
  List.map String.toList
    ["", "ftp", "http", "gopher", "nntp", "telnet", "imap", "wais", "file", "mms", "https",
     "shttp", "snews", "prospero", "rtsp", "rtsps", "rtspu", "rsync", "svn", "svn+ssh", "sftp",
     "nfs", "git", "git+ssh", "ws", "wss"]

/-- The schemes with parameters after the path. -/
def paramsSchemes : List Text :=
  List.map String.toList
    ["", "ftp", "hdl", "prospero", "http", "imap", "https", "shttp", "rtsp", "rtsps", "rtspu",
     "sip", "sips", "mms", "sftp", "tel"]

/-- Whether `c` is dropped at the front of a reference. -/
def isLeadingJunk (c : Char) : Bool := c.toNat ≤ 0x20

/-- Whether `c` is dropped everywhere in a reference. -/
def isInnerJunk (c : Char) : Bool := c = '\t' || c = '\r' || c = '\n'

/-- A reference without the characters that do not count. -/
def clean (t : Text) : Text := (t.dropWhile isLeadingJunk).filter (! isInnerJunk ·)

/-- Whether `c` may stand in a scheme. -/
def isSchemeChar (c : Char) : Bool := Text.isAsciiWord c || c = '+' || c = '.' || c = '-'

/-- The scheme of a reference in lower case, if it has one, and the rest. -/
def cutScheme (t : Text) : Option Text × Text :=
  match Text.cutAt ':' t with
  | (name, some rest) =>
    if name.head?.any Text.isAsciiLetter && name.all isSchemeChar then
      (some (Text.lowerAscii name), rest)
    else (none, t)
  | (_, none) => (none, t)

/-- Whether `c` ends an authority. -/
def endsAuthority (c : Char) : Bool := c = '/' || c = '?' || c = '#'

/-- The characters that count as delimiters once they are in compatibility
form. -/
def hiddenDelimiters : List Nat :=
  [0x2047, 0x2048, 0x2049, 0x2100, 0x2101, 0x2105, 0x2106, 0x2A74, 0xFE13, 0xFE16, 0xFE55,
   0xFE56, 0xFE5F, 0xFE6B, 0xFF03, 0xFF0F, 0xFF1A, 0xFF1F, 0xFF20]

/-- Whether a text is an address of a version to come: `v`, hexadecimal digits, a
point and something more. -/
def isFutureAddress (t : Text) : Bool :=
  match Text.cutAt '.' (t.drop 1) with
  | (digits, some rest) =>
    ! digits.isEmpty && digits.all (fun c => (Text.hexValue? c).isSome) && ! rest.isEmpty
  | (_, none) => false

/-- What is wrong with the host between brackets. -/
def bracketFault? (host : Text) : Option ReferenceFault :=
  if host.head? = some 'v' then
    if isFutureAddress host then none else some .badFutureAddress
  else if Address.isVersion4 host then some .version4InBrackets
  else if Address.isVersion6 host then none
  else some (.notAnAddress host)

/-- What is wrong with an authority. -/
def authorityFault? (authority : Text) : Option ReferenceFault :=
  if authority.elem '[' != authority.elem ']' then some .badBrackets
  else
    let inside := (Text.cutAt ']' ((Text.cutAt '[' authority).2.getD [])).1
    match if authority.elem '[' then bracketFault? inside else none with
    | some fault => some fault
    | none =>
      if authority.any fun c => hiddenDelimiters.contains c.toNat then
        some (.badCharacters authority)
      else none

/-- The path and the parameters of its last segment. -/
def cutParams (path : Text) : Text × Text :=
  let segment := (path.reverse.takeWhile (· ≠ '/')).reverse
  match Text.cutAt ';' segment with
  | (name, some params) => (path.take (path.length - segment.length) ++ name, params)
  | (_, none) => (path, [])

/-- The parts of a reference, with a scheme for where it has none. -/
def split (scheme : Text) (t : Text) : Except ReferenceFault Reference :=
  let (own, rest) := cutScheme (clean t)
  let scheme := own.getD scheme
  let (authority, rest) :=
    match rest with
    | '/' :: '/' :: after =>
      (after.takeWhile (! endsAuthority ·), after.dropWhile (! endsAuthority ·))
    | _ => ([], rest)
  match authorityFault? authority with
  | some fault => .error fault
  | none =>
    let (rest, fragment) := Text.cutAt '#' rest
    let (path, query) := Text.cutAt '?' rest
    let (path, params) := if paramsSchemes.contains scheme then cutParams path else (path, [])
    .ok ⟨scheme, authority, path, params, query.getD [], fragment.getD []⟩

/-- A part behind its delimiter, unless it is empty. -/
def behind (delimiter : Char) (part : Text) : Text :=
  if part.isEmpty then [] else delimiter :: part

/-- The text of a reference. -/
def toText (r : Reference) : Text :=
  let path := r.path ++ behind ';' r.params
  let isHierarchical :=
    ! r.authority.isEmpty || (! r.scheme.isEmpty && authoritySchemes.contains r.scheme) ||
      path.take 2 = ['/', '/']
  let rooted := if path.isEmpty || path.head? = some '/' then path else '/' :: path
  let placed := if isHierarchical then '/' :: '/' :: r.authority ++ rooted else path
  (if r.scheme.isEmpty then placed else r.scheme ++ ':' :: placed) ++ behind '?' r.query ++
    behind '#' r.fragment

/-- The segments between the first and the last without the empty ones. -/
def dropInnerEmpty (segments : List Text) : List Text :=
  segments.take 1 ++ ((segments.drop 1).dropLast).filter (! ·.isEmpty) ++
    (segments.drop 1).drop (segments.length - 2)

/-- The segments of a path, seen from the directory of a base path. -/
def segmentsFrom (base path : Text) : List Text :=
  if path.head? = some '/' then Text.splitAt '/' path
  else
    let directory := Text.splitAt '/' base
    let directory := if directory.getLast? = some [] then directory else directory.dropLast
    dropInnerEmpty (directory ++ Text.splitAt '/' path)

/-- Whether a segment stands for this directory or the one above. -/
def isDots (segment : Text) : Bool := segment = ['.'] || segment = ['.', '.']

/-- A path from its segments, with the dot segments resolved. -/
def resolve (segments : List Text) : Text :=
  let resolved := segments.foldl (fun output segment =>
    if segment = ['.', '.'] then output.dropLast
    else if segment = ['.'] then output
    else output ++ [segment]) []
  let resolved := if segments.getLast?.any isDots then resolved ++ [[]] else resolved
  let path := Text.joinWith "/" resolved
  if path.isEmpty then ['/'] else path

/-- The text of a reference, seen from a base; neither is empty. -/
def joinParts (base r : Reference) (t : Text) : Text :=
  if r.scheme ≠ base.scheme ∨ ! relativeSchemes.contains r.scheme then t
  else if authoritySchemes.contains r.scheme && ! r.authority.isEmpty then r.toText
  else
    let authority := if authoritySchemes.contains r.scheme then base.authority else r.authority
    if r.path.isEmpty && r.params.isEmpty then
      toText { r with
        authority := authority
        path := base.path
        params := base.params
        query := if r.query.isEmpty then base.query else r.query }
    else toText { r with authority := authority, path := resolve (segmentsFrom base.path r.path) }

/-- The URL that the reference `t` means, seen from `base`. -/
def join (base t : Text) : Except ReferenceFault Text :=
  if base.isEmpty then .ok t
  else if t.isEmpty then .ok base
  else do
    let b ← split [] base
    let r ← split b.scheme t
    return joinParts b r t

end Reference

end ClientGen
