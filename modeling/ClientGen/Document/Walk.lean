/-
# Walking a document

A document is an object; under `paths` stand its path items, and in a path item
the operations under seven HTTP methods.  The walk goes through them in document
order.  A path item or an operation that is no object is passed over with a
note, any other field of a path item silently.

Grouping files each operation under each of its tags: the groups stand in the
order in which their tags first occur, and in a group the operations in the
order of the walk.
-/
import ClientGen.Document.Operation
import ClientGen.Failure

namespace ClientGen.Document

/-- The HTTP methods whose fields are operations. -/
def httpMethods : List Text := ["get", "post", "put", "patch", "delete", "options", "head"]

/-- What the walk meets. -/
inductive Visit
  | operation (path method : Text) (fields : Fields)
  | badPathItem (path : Text)
  | badOperation (path method : Text)
  deriving Repr

/-- What a field of a path item amounts to. -/
def visitField (path method : Text) : Value → Option Visit
  | .obj fields =>
    if httpMethods.contains method then some (.operation path method fields) else none
  | _ => if httpMethods.contains method then some (.badOperation path method) else none

/-- What the walk meets at a path. -/
def visitPath (path : Text) : Value → List Visit
  | .obj item => item.filterMap fun (method, value) => visitField path method value
  | _ => [.badPathItem path]

/-- What the walk meets in a document, in document order. -/
def walk (document : Fields) : List Visit :=
  (document.value "paths").objectFields.flatMap fun (path, item) => visitPath path item

/-- The operation met, with its path and HTTP method. -/
def Visit.found? : Visit → Option (Text × Text × Fields)
  | .operation path method fields => some (path, method, fields)
  | _ => none

/-- The note about something passed over. -/
def Visit.note? : Visit → Option LogEntry
  | .operation .. => none
  | .badPathItem path => some (.debug ("Пропуск " ++ path ++ ": описание пути не объект"))
  | .badOperation path method =>
    some (.debug ("Пропуск " ++ Text.upper method ++ " " ++ path ++ ": операция не объект"))

/-- The operations of a document, each with its path and HTTP method. -/
def operations (document : Fields) : List (Text × Text × Fields) :=
  (walk document).filterMap Visit.found?

/-- The notes about what the walk passes over. -/
def notes (document : Fields) : List LogEntry := (walk document).filterMap Visit.note?

/-- The indexed operations of a document. -/
def indexedOperations (document : Fields) : List IndexedOperation :=
  (operations document).map fun (path, method, fields) =>
    (Operation.ofFields fields).index path method

/-- An operation with each of the tags it is filed under. -/
def taggedWith (op : IndexedOperation) : List (Text × IndexedOperation) :=
  op.filedTags.map fun tag => (tag, op)

/-- The operations of a document by tag. -/
def groups (document : Fields) : List (Text × List IndexedOperation) :=
  Ordered.groups ((indexedOperations document).flatMap taggedWith)

end ClientGen.Document
