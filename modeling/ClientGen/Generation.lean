/-
# Generation

A whole run of the generator: the document is fetched, the project made from it
and written.  The document is read before anything is written, so a document that
cannot be had leaves the file tree as it was.
-/
import ClientGen.Client.Generator
import ClientGen.Fetch
import ClientGen.Output
import ClientGen.Toml.Library

namespace ClientGen

/-- What a generation is to do.  The URL and the directory come from a
configuration file and may be no texts. -/
structure Settings where
  url : Setting
  directory : Setting
  encode : Bool
  maxRedirects : Int
  timeout : Option Double
  deriving Repr

/-- What has come of a generation: the project or an error, the file tree, the
log, the URLs as they were sent, and the time limits of the clients used. -/
structure Generation where
  result : Except GenError Code.Project
  tree : FileTree
  log : List LogEntry
  sent : List Text := []
  timeouts : List (Option Double) := []

namespace Generation

/-- The note about the document. -/
def documentNote (url : Setting) : LogEntry :=
  .info ("📥 Загрузка OpenAPI спецификации: " ++ url.toText)

/-- The note about the code. -/
def codeNote : LogEntry := .info "⚙️ Генерация кода..."

/-- The note about the end of a generation. -/
def doneNote (tree : FileTree) (directory : Text) : LogEntry :=
  .info ("✅ Клиент создан в: " ++ Path.absolute tree.workingDirectory directory)

/-- Makes the project of a document and writes it into a directory. -/
def ofDocument (tree : FileTree) (document : Fields) (directory : Setting) (encode : Bool) :
    Generation :=
  let start := Generator.start document encode
  let made := start.generate
  let log := codeNote :: start.notes
  match directory with
  | .plain (.str target) =>
    let written := Output.write tree made.project target made.plan
    match written.result with
    | .ok _ =>
      { result := .ok made.project
        tree := written.tree
        log := log ++ written.log ++ [doneNote tree target] }
    | .error e => { result := .error e, tree := written.tree, log := log ++ written.log }
  | setting =>
    { result := .error (.breakdown (.notAPath setting.typeName)), tree := tree, log := log }

/-- Fetches the document and generates its client. -/
def run (tree : FileTree) (client : HttpClient) (settings : Settings) : Generation :=
  let note := documentNote settings.url
  match settings.url with
  | .plain (.str url) =>
    let fetched := Fetch.document tree client settings.maxRedirects url
    let timeouts := if Fetch.isLocal tree url then [] else [settings.timeout]
    match fetched.result with
    | .error e =>
      { result := .error e
        tree := tree
        log := note :: fetched.log
        sent := fetched.sent
        timeouts := timeouts }
    | .ok document =>
      let rest := ofDocument tree document settings.directory settings.encode
      { rest with
        log := note :: fetched.log ++ rest.log
        sent := fetched.sent
        timeouts := timeouts }
  | setting =>
    { result := .error (.breakdown (.noMember setting.typeName "startswith"))
      tree := tree
      log := [note] }

end Generation

end ClientGen
