/-
# Operations of a document

An operation as the generator needs it, read from an object of any shape.  Before
a field is checked, its value is prepared: a text is taken as it is, another value
becomes its text where a text is wanted, and what is no list or no object counts
as empty.  Two fields have two names each; where both are given, the first
decides, even with null as its value.

An indexed operation adds the HTTP method and the path that it stands under and
the name of its method in the generated source.  It is made by reading twice: the
operation that was read is put down under the names of its fields, with what is
added to it, and checked once more.

Neither reading ever fails.  What they come to is said without checks by
`Operation.ofFields` and `Operation.index`, of which the rest of the library
speaks (`Operation.read_eq`, `readIndexed_eq`).
-/
import ClientGen.Naming.Names
import ClientGen.Value.Schema

namespace ClientGen

/-- A declared parameter: its name and the part of the request it belongs to. -/
structure OperationParameter where
  name : Option Text
  location : Option Text
  deriving Repr

/-- An operation of a document. -/
structure Operation where
  operationId : Option Text
  tags : List Text
  summary : Option Text
  description : Option Text
  parameters : List OperationParameter
  requestBody : Option Value
  deriving Repr

/-- An operation with its HTTP method, its path and the name of its method in
the generated source. -/
structure IndexedOperation extends Operation where
  method : Text
  path : Text
  functionName : Text
  deriving Repr

namespace Value

/-- A text as it is, and nothing else. -/
def ownText? : Value → Option Text
  | .str t => some t
  | _ => none

/-- A value as text, null being none. -/
def anyText? : Value → Option Text
  | .null => none
  | v => some v.toText

/-- The value, null being none. -/
def nonNull? : Value → Option Value
  | .null => none
  | v => some v

/-- The items of a list; any other value has none. -/
def listItems : Value → List Value
  | .arr items => items
  | _ => []

/-- A text, or null where there is none. -/
def ofText? : Option Text → Value
  | some t => .str t
  | none => .null

/-! ## Preparing the value of a field -/

/-- A text as it is, and null in the place of any other value. -/
def textOrNull : Value → Value
  | .str t => .str t
  | _ => .null

/-- Null as it is, and any other value as text. -/
def nullOrText : Value → Value
  | .null => .null
  | v => .str v.toText

/-- The items of a list as texts, those that are null left out; an empty list in the
place of any other value. -/
def textItems : Value → Value
  | .arr items => .arr ((items.filter (! ·.isNull)).map fun v => .str v.toText)
  | _ => .arr []

/-- The items of a list, with an empty object in the place of each that is none; an empty
list in the place of any other value. -/
def objectItems : Value → Value
  | .arr items => .arr (items.map fun v => .obj v.objectFields)
  | _ => .arr []

/-! ## Checking it then -/

/-- A text or nothing; a value that is no text counts as nothing. -/
def readOwnText (v : Value) : Checked (Option Text) := Schema.nullable Schema.asText v.textOrNull

/-- A text or nothing; a value that is no text counts as its text. -/
def readAnyText (v : Value) : Checked (Option Text) := Schema.nullable Schema.asText v.nullOrText

/-- A list of texts. -/
def readTexts (v : Value) : Checked (List Text) := Schema.listOf Schema.asText v.textItems

/-- A list of records. -/
def readRecords {α : Type} (read : Fields → Checked α) (v : Value) : Checked (List α) :=
  Schema.listOf (Schema.record read) v.objectItems

/-- Any value or nothing. -/
def readAny (v : Value) : Checked (Option Value) := Schema.nullable .ok v

end Value

namespace OperationParameter

/-- Reads a parameter. -/
def read (fields : Fields) : Checked OperationParameter :=
  ((Schema.withDefault "name" none Value.readOwnText fields).both
    (Schema.aliasedWithDefault "in" "location" none Value.readOwnText fields)).map
      fun (name, location) => ⟨name, location⟩

/-- The parameter that an object declares. -/
def ofFields (fields : Fields) : OperationParameter where
  name := (fields.value "name").ownText?
  location := (fields.aliased "in" "location").ownText?

/-- A parameter under the names of its fields. -/
def toFields (p : OperationParameter) : Fields :=
  [("name", .ofText? p.name), ("location", .ofText? p.location)]

/-- The names of parameters without the empty ones and without repetitions, in
the order of their first occurrence. -/
def uniqueNames (parameters : List OperationParameter) : List Text :=
  Ordered.distinct ((parameters.filterMap (·.name)).filter (! ·.isEmpty))

end OperationParameter

namespace Operation

/-- Reads an operation. -/
def read (fields : Fields) : Checked Operation :=
  ((Schema.aliasedWithDefault "operationId" "operation_id" none Value.readAnyText fields).both
    ((Schema.withDefault "tags" [] Value.readTexts fields).both
      ((Schema.withDefault "summary" none Value.readAnyText fields).both
        ((Schema.withDefault "description" none Value.readAnyText fields).both
          ((Schema.withDefault "parameters" []
              (Value.readRecords OperationParameter.read) fields).both
            (Schema.aliasedWithDefault "requestBody" "request_body" none
              Value.readAny fields)))))).map
    fun (operationId, tags, summary, description, parameters, requestBody) =>
      ⟨operationId, tags, summary, description, parameters, requestBody⟩

/-- The operation that an object describes. -/
def ofFields (fields : Fields) : Operation where
  operationId := (fields.aliased "operationId" "operation_id").anyText?
  tags := (fields.value "tags").listItems.filterMap Value.anyText?
  summary := (fields.value "summary").anyText?
  description := (fields.value "description").anyText?
  parameters :=
    (fields.value "parameters").listItems.map fun v => OperationParameter.ofFields v.objectFields
  requestBody := (fields.aliased "requestBody" "request_body").nonNull?

/-- An operation under the names of its fields. -/
def toFields (op : Operation) : Fields :=
  [("operation_id", .ofText? op.operationId),
    ("tags", .arr (op.tags.map .str)),
    ("summary", .ofText? op.summary),
    ("description", .ofText? op.description),
    ("parameters", .arr (op.parameters.map fun p => .obj p.toFields)),
    ("request_body", op.requestBody.getD .null)]

/-- The names of the parameters of one location. -/
def paramNames (location : Text) (op : Operation) : List Text :=
  OperationParameter.uniqueNames (op.parameters.filter (·.location = some location))

/-- Whether the operation takes a request body. -/
def hasBody (op : Operation) : Bool := op.requestBody.isSome

/-- The tag of operations that have none. -/
def defaultTag : Text := "default"

/-- The tags that the operation is filed under. -/
def filedTags (op : Operation) : List Text :=
  if op.tags.isEmpty then [defaultTag] else op.tags

/-- The operation at a path and an HTTP method. -/
def index (op : Operation) (path method : Text) : IndexedOperation where
  toOperation := op
  method := method
  path := path
  functionName := Naming.functionName op.operationId path method

/-- An operation under the names of its fields, with its method, its path and the name of
its method. -/
def indexedFields (op : Operation) (path method : Text) : Fields :=
  Ordered.put "fn_name" (.str (Naming.functionName op.operationId path method))
    (Ordered.put "path_key" (.str path) (Ordered.put "method" (.str method) op.toFields))

end Operation

namespace IndexedOperation

/-- Reads an indexed operation, with its method, path and name. -/
def ofFields (fields : Fields) : Checked IndexedOperation :=
  ((Operation.read fields).both
    ((Schema.required "method" Schema.asText fields).both
      ((Schema.requiredAliased "pathKey" "path_key" Schema.asText fields).both
        (Schema.requiredAliased "fnName" "fn_name" Schema.asText fields)))).map
    fun (op, method, path, functionName) => ⟨op, method, path, functionName⟩

/-- The names of the path parameters. -/
def pathParams (op : IndexedOperation) : List Text := op.paramNames "path"

/-- The names of the query parameters. -/
def queryParams (op : IndexedOperation) : List Text := op.paramNames "query"

/-- The names of the header parameters. -/
def headerParams (op : IndexedOperation) : List Text := op.paramNames "header"

end IndexedOperation

/-- The operation that an object describes, put down with its method, its path and the
name of its method, and read again. -/
def readIndexed (path method : Text) (raw : Fields) : Checked IndexedOperation :=
  (Operation.read raw).bind fun op => IndexedOperation.ofFields (op.indexedFields path method)

end ClientGen
