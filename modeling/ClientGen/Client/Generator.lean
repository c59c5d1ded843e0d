/-
# Generating a client

A generation adds to a project the transport file, the module of each tag in the
order of the groups, and the package file.  A generator may run several times:
the files accumulate, and the plan stays as the first run made it.
-/
import ClientGen.Client.Module
import ClientGen.Document.Walk

namespace ClientGen

/-- A generator for one document, with the files and the plan made so far. -/
structure Generator where
  document : Fields
  encode : Bool
  project : Code.Project := { name := "api" }
  plan : Plan := {}
  deriving Repr

namespace Generator

/-- A generator that has made nothing yet. -/
def start (document : Fields) (encode : Bool) : Generator :=
  { document := document, encode := encode }

/-- The note about the entry of a tag. -/
def entryNote (e : PlanEntry) : LogEntry :=
  .debug ("Тег " ++ Literal.encode e.tag ++ " -> " ++ e.fileName ++ " (" ++ e.className ++ ")")

/-- Adds the module of a tag with its operations. -/
def addTag (g : Generator) (group : Text × List IndexedOperation) : Generator :=
  let (tag, operations) := group
  let (entry, plan) := g.plan.register tag operations.length
  { g with
    plan := plan
    project :=
      g.project.addFile (Client.tagModule tag entry.className entry.fileName operations g.encode) }

/-- Adds the files of the document. -/
def generate (g : Generator) : Generator :=
  let withTransport := { g with project := g.project.addFile Transport.file }
  let withTags := (Document.groups g.document).foldl addTag withTransport
  { withTags with project := withTags.project.addFile (Client.packageFile withTags.plan) }

/-- Adds the files of the document `times` times. -/
def generateTimes : Nat → Generator → Generator
  | 0, g => g
  | times + 1, g => generateTimes times g.generate

/-- The notes of a generation: what the walk passes over, then the entry of each
tag. -/
def notes (g : Generator) : List LogEntry :=
  Document.notes g.document ++
    (Document.groups g.document).filterMap fun (tag, _) => (g.generate.plan.find? tag).map entryNote

end Generator

/-- The project of a document. -/
def generateClient (document : Fields) (encode : Bool) : Code.Project :=
  (Generator.start document encode).generate.project

end ClientGen
