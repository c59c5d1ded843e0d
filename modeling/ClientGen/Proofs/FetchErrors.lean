/-
# How fetching can fail

Fetching documents four kinds of failure: a document that cannot be had, redirects that are
too many, a status of errors, and a text that is no JSON object.  Whatever the files, the
client and the limit are, a failure of the generator that comes of fetching is one of these.

Beside them there are errors that fetching does not foresee, and here they are given by a
relation of their own: a file whose octets are no text, an integer of too many digits, a
place that cannot be joined to the URL of its response, and a client that breaks down.
Fetching breaks down exactly in these ways, with the error that each of them names.  So it
keeps to what it documents exactly where none of them happens; a file that is not well
formed is enough to see that they do happen.

Limits of the interpreter that runs the generator are outside of all this.  A JSON reader
that recurses may be stopped by the depth to which arrays and objects are nested; where it
is stopped depends on a limit that can be set, and not on what is modelled here.
-/
import ClientGen.Proofs.Redirects

namespace ClientGen

/-- A path that leads to a file can be read. -/
theorem FileTree.exists_read_of_hasFile {tree : FileTree} {path : Text}
    (h : tree.hasFile path = true) : ∃ octets, tree.read path = .ok octets := by
  rw [hasFile, find?] at h
  rw [read]
  cases located : tree.locate true path with
  | error e =>
      rw [located] at h
      cases h
  | ok found =>
      rw [located] at h
      cases found with
      | vacant => cases h
      | entry place entry =>
          cases entry with
          | file octets => exact ⟨octets, rfl⟩
          | directory | link => cases h

namespace Fetch

variable {tree : FileTree} {client : HttpClient} {limit : Int} {url : Text}

/-! ## Documented failures -/

/-- The failures that fetching documents. -/
inductive Documented : Failure → Prop
  | fetch (message : Text) (url : Option Text) : Documented (.fetch message url)
  | tooManyRedirects (url : Text) (limit : Int) : Documented (.tooManyRedirects url limit)
  | httpStatus (status : Int) (url : Text) : Documented (.httpStatus status url)
  | parse (message : Text) : Documented (.parse message)

/-- Fetching keeps to what it documents: it gives a document or ends in a documented
failure. -/
def AsDocumented (result : Except GenError Fields) : Prop :=
  (∃ document, result = .ok document) ∨ ∃ f, result = .error (.failure f) ∧ Documented f

/-- A result is as documented exactly if it is no breakdown, where the failures are. -/
theorem asDocumented_iff {result : Except GenError Fields}
    (failures : ∀ f, result = .error (.failure f) → Documented f) :
    AsDocumented result ↔ ∀ b, result ≠ .error (.breakdown b) := by
  constructor
  · rintro (⟨document, rfl⟩ | ⟨f, rfl, -⟩) b same
    · cases same
    · cases same
  · intro noBreakdown
    cases result with
    | ok document => exact Or.inl ⟨document, rfl⟩
    | error e =>
        cases e with
        | failure f => exact Or.inr ⟨f, rfl, failures f rfl⟩
        | breakdown b => exact absurd rfl (noBreakdown b)

/-- A text that cannot be read as a document fails as documented. -/
theorem documented_of_parse {content source : Text} {f : Failure}
    (failed : Document.parse content source = .error (.failure f)) : Documented f := by
  rw [Document.parse] at failed
  split at failed <;> cases failed
  · exact .parse _
  · exact .parse _

/-- Reading a text as a document breaks down exactly at an integer of too many digits. -/
theorem parse_breakdown_iff {content source : Text} {b : Breakdown} :
    Document.parse content source = .error (.breakdown b) ↔
      ∃ count, Json.parse content = .error (.tooManyDigits count) ∧
        b = .badValue (Numeral.tooManyDigits count) := by
  rw [Document.parse]
  cases parsed : Json.parse content with
  | ok value => cases value <;> simp
  | error fault =>
      cases fault with
      | malformed what place => simp
      | tooManyDigits count => simp [eq_comm]

/-- An outcome that decides fails as documented. -/
theorem documented_of_decide {outcome : Outcome} {f : Failure}
    (failed : decide url outcome = .error (.failure f)) : Documented f := by
  cases outcome with
  | failed reason =>
      cases failed
      exact .fetch _ _
  | broke b => cases failed
  | response r =>
      rw [decide, final] at failed
      split at failed
      · cases failed
        exact .httpStatus _ _
      · exact documented_of_parse failed

/-- An outcome that decides breaks down exactly if the client did, or if a response without
a status of errors has a body with an integer of too many digits. -/
theorem decide_breakdown_iff {outcome : Outcome} {b : Breakdown} :
    decide url outcome = .error (.breakdown b) ↔
      outcome = .broke b ∨
        ∃ r count, outcome = .response r ∧ r.status < 400 ∧
          Json.parse r.body = .error (.tooManyDigits count) ∧
          b = .badValue (Numeral.tooManyDigits count) := by
  cases outcome with
  | failed reason => simp [decide]
  | broke other => simp [decide]
  | response r =>
      rw [decide, final]
      by_cases status : r.status ≥ 400
      · simp [status, Int.not_lt.mpr status]
      · rw [if_neg status, parse_breakdown_iff]
        simp [Int.not_le.mp status]

/-! ## Ways past them -/

/-- The text that fetching reads as a document: that of a file, or the body of the first
response of the chain that is not referred on and has no status of errors. -/
inductive Reads (tree : FileTree) (client : HttpClient) (limit : Int) (url : Text) : Text → Prop
  | file {octets : List UInt8} {text : Text} (isFile : isLocal tree url = true)
      (read : tree.read url = .ok octets) (decoded : Utf8.decode octets = .ok text) :
      Reads tree client limit url (Text.unifyNewlines text)
  | body {k : Nat} {u : Text} {r : Response} (isWeb : isLocal tree url = false)
      (within : k ≤ limit.toNat) (here : Reaches client url k u)
      (stop : ¬ Redirected client url k) (responds : (client k u).outcome = .response r)
      (fine : r.status < 400) : Reads tree client limit url r.body

/-- The ways past the documented failures, each with the error that fetching ends in. -/
inductive Escapes (tree : FileTree) (client : HttpClient) (limit : Int) (url : Text) :
    Breakdown → Prop
  /-- The octets of the file are no text. -/
  | noText {octets : List UInt8} {flaw : Utf8.Flaw} (isFile : isLocal tree url = true)
      (read : tree.read url = .ok octets) (undecoded : Utf8.decode octets = .error flaw) :
      Escapes tree client limit url (.undecodable flaw)
  /-- The document has an integer with more digits than are converted. -/
  | hugeInteger {content : Text} {count : Nat} (reads : Reads tree client limit url content)
      (huge : Json.parse content = .error (.tooManyDigits count)) :
      Escapes tree client limit url (.badValue (Numeral.tooManyDigits count))
  /-- A response within the limit refers to a place that cannot be joined to its URL. -/
  | strayPlace {k : Nat} {u place : Text} {r : Response} {fault : ReferenceFault}
      (isWeb : isLocal tree url = false) (within : k < limit.toNat)
      (here : Reaches client url k u) (refers : RefersTo (client k u).outcome r place)
      (astray : Reference.join r.url place = .error fault) :
      Escapes tree client limit url (.badValue fault.message)
  /-- The client breaks down at a request. -/
  | client {k : Nat} {u : Text} {b : Breakdown} (isWeb : isLocal tree url = false)
      (within : k ≤ limit.toNat) (here : Reaches client url k u)
      (broke : (client k u).outcome = .broke b) : Escapes tree client limit url b

/-- A request at which the client breaks down is not referred on. -/
theorem Reaches.not_redirected {k : Nat} {u : Text} {b : Breakdown}
    (here : Reaches client url k u) (broke : (client k u).outcome = .broke b) :
    ¬ Redirected client url k := by
  rintro ⟨u', r, place, here', refers, -⟩
  rw [here'.unique here, broke] at refers
  cases refers

/-! ## Files -/

/-- A document that is read from a file fails as documented. -/
theorem documented_of_fromFile {f : Failure}
    (failed : fromFile tree url = .error (.failure f)) : Documented f := by
  rw [fromFile] at failed
  split at failed
  · cases failed
    exact .fetch _ _
  · cases failed
  · split at failed
    · cases failed
    · exact documented_of_parse failed

/-- Reading a document from a file breaks down exactly as the relation says. -/
theorem fromFile_breakdown_iff (isFile : isLocal tree url = true) {b : Breakdown} :
    fromFile tree url = .error (.breakdown b) ↔ Escapes tree client limit url b := by
  have there : tree.hasFile url = true := by
    rw [isLocal, Bool.and_eq_true] at isFile
    exact isFile.2
  obtain ⟨octets, read⟩ := FileTree.exists_read_of_hasFile there
  rw [fromFile, read]
  constructor
  · intro failed
    dsimp only at failed
    split at failed
    · rename_i flaw undecoded
      cases failed
      exact .noText isFile read undecoded
    · rename_i text decoded
      obtain ⟨count, huge, rfl⟩ := parse_breakdown_iff.mp failed
      exact .hugeInteger (.file isFile read decoded) huge
  · intro escapes
    cases escapes with
    | noText _ read' undecoded =>
        cases read.symm.trans read'
        simp only [undecoded]
    | hugeInteger reads huge =>
        cases reads with
        | file _ read' decoded =>
            cases read.symm.trans read'
            simp only [decoded]
            exact parse_breakdown_iff.mpr ⟨_, huge, rfl⟩
        | body isWeb => cases isFile.symm.trans isWeb
    | strayPlace isWeb => cases isFile.symm.trans isWeb
    | client isWeb => cases isFile.symm.trans isWeb

/-! ## The network -/

/-- A document that is fetched from a URL fails as documented. -/
theorem documented_of_fromNetwork {f : Failure}
    (failed : (fromNetwork client limit url).result = .error (.failure f)) : Documented f := by
  rcases chain_cases client url limit.toNat with
    on | ⟨k, within, u, here, stop⟩ | ⟨k, within, u, r, _, _, here, refers, astray⟩
  · obtain ⟨u, -, result, -⟩ := fromNetwork_limit on
    cases result.symm.trans failed
    exact .tooManyRedirects _ _
  · have result := (fromNetwork_stop within here stop).1
    exact documented_of_decide (result.symm.trans failed)
  · have result := (fromNetwork_astray within here refers astray).1
    cases result.symm.trans failed

/-- Fetching a document from a URL breaks down exactly as the relation says. -/
theorem fromNetwork_breakdown_iff (isWeb : isLocal tree url = false) {b : Breakdown} :
    (fromNetwork client limit url).result = .error (.breakdown b) ↔
      Escapes tree client limit url b := by
  constructor
  · intro failed
    rcases chain_cases client url limit.toNat with
      on | ⟨k, within, u, here, stop⟩ | ⟨k, within, u, r, _, _, here, refers, astray⟩
    · obtain ⟨u, -, result, -⟩ := fromNetwork_limit on
      cases result.symm.trans failed
    · have result := (fromNetwork_stop within here stop).1
      rcases decide_breakdown_iff.mp (result.symm.trans failed) with
        broke | ⟨r, count, responds, fine, huge, rfl⟩
      · exact .client isWeb within here broke
      · exact .hugeInteger (.body isWeb within here stop responds fine) huge
    · have result := (fromNetwork_astray within here refers astray).1
      cases result.symm.trans failed
      exact .strayPlace isWeb within here refers astray
  · intro escapes
    cases escapes with
    | noText isFile => cases isFile.symm.trans isWeb
    | hugeInteger reads huge =>
        cases reads with
        | file isFile => cases isFile.symm.trans isWeb
        | body _ within here stop responds fine =>
            rw [(fromNetwork_stop within here stop).1]
            exact decide_breakdown_iff.mpr (Or.inr ⟨_, _, responds, fine, huge, rfl⟩)
    | strayPlace _ within here refers astray =>
        exact (fromNetwork_astray within here refers astray).1
    | client _ within here broke =>
        rw [(fromNetwork_stop within here (here.not_redirected broke)).1]
        exact decide_breakdown_iff.mpr (Or.inl broke)

/-- How fetching can fail, with any files, client, limit and URL.  Each failure is one of
those documented.  A breakdown comes of it exactly in the ways past them, with the error
that the way names.  So fetching gives a document or a documented failure exactly if none
of the ways is taken.  That these are all is said of an interpreter without limits, such as
one on the depth of recursion. -/
theorem asDocumented_iff_no_escape (tree : FileTree) (client : HttpClient) (limit : Int)
    (url : Text) :
    let result := (document tree client limit url).result
    (∀ f, result = .error (.failure f) → Documented f) ∧
      (∀ b, result = .error (.breakdown b) ↔ Escapes tree client limit url b) ∧
      (AsDocumented result ↔ ∀ b, ¬ Escapes tree client limit url b) := by
  intro result
  have failures : ∀ f, result = .error (.failure f) → Documented f := by
    intro f failed
    cases isFile : isLocal tree url with
    | true =>
        simp only [result, document, isFile, if_true] at failed
        exact documented_of_fromFile failed
    | false =>
        simp only [result, document, isFile, Bool.false_eq_true, if_false] at failed
        exact documented_of_fromNetwork failed
  have breakdowns : ∀ b, result = .error (.breakdown b) ↔ Escapes tree client limit url b := by
    intro b
    cases isFile : isLocal tree url with
    | true =>
        simp only [result, document, isFile, if_true]
        exact fromFile_breakdown_iff isFile
    | false =>
        simp only [result, document, isFile, Bool.false_eq_true, if_false]
        exact fromNetwork_breakdown_iff isFile
  refine ⟨failures, breakdowns, ?_⟩
  rw [asDocumented_iff failures]
  exact forall_congr' fun b => not_congr (breakdowns b)

/-- A tree with a file of a single octet that begins no character. -/
def octetTree : FileTree where
  entries := [(["spec.json".toList], .file [0xFF])]

/-- A client that answers every request by an empty object. -/
def plainClient : HttpClient := fun _ u =>
  ⟨some u, .response { status := 200, url := u, location := none, body := "\x7b\x7d" }⟩

/-- On the file fetching does not end as documented, since the octet is no text; on the web
it ends as documented there, whatever the limit. -/
theorem asDocumented_iff_no_escape_octet :
    ¬ AsDocumented (document octetTree plainClient 10 "spec.json").result ∧
      ∀ limit, AsDocumented (document octetTree plainClient limit "http://x.test").result := by
  obtain ⟨-, -, onFile⟩ := asDocumented_iff_no_escape octetTree plainClient 10 "spec.json"
  refine ⟨fun asDocumented => ?_, fun limit => ?_⟩
  · have isFile : isLocal octetTree "spec.json" = true := rfl
    have read : octetTree.read "spec.json" = .ok [0xFF] := rfl
    exact onFile.mp asDocumented _ (.noText isFile read rfl)
  · obtain ⟨-, -, onWeb⟩ := asDocumented_iff_no_escape octetTree plainClient limit "http://x.test"
    have isWeb : isLocal octetTree "http://x.test" = false := rfl
    refine onWeb.mpr fun b escapes => ?_
    cases escapes with
    | noText isFile => cases isFile
    | hugeInteger reads huge =>
        cases reads with
        | file isFile => cases isFile
        | body _ _ _ _ responds _ =>
            cases responds
            cases huge
    | strayPlace _ _ _ refers astray =>
        obtain ⟨responds, -, -, location, -⟩ := refers
        cases responds
        cases location
    | client _ _ _ broke => cases broke

/-- It is not so that fetching always ends as documented, not even with clients that answer
every request: the file that is no text is not foreseen. -/
theorem some_fetch_escapes :
    ¬ ∀ (tree : FileTree) (client : HttpClient) (limit : Int) (url : Text),
      (∀ n u, ∃ r, (client n u).outcome = .response r) →
        AsDocumented (document tree client limit url).result := by
  intro always
  have answers : ∀ n u, ∃ r, (plainClient n u).outcome = .response r := fun n u => ⟨_, rfl⟩
  rcases always octetTree plainClient 10 "spec.json" answers with ⟨document, ok⟩ | ⟨f, failed, -⟩
  · cases ok
  · cases failed

end Fetch

end ClientGen
