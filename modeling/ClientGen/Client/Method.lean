/-
# Methods

The method of a tag class for one operation.  It takes exactly the arguments that
the operation needs: the path arguments are required, while the query, the
headers and the body may be left out.
-/
import ClientGen.Client.PathExpression
import ClientGen.Code.Basic
import ClientGen.Document.Operation

namespace ClientGen.Client

open Code

/-- The type of a mapping from names to values. -/
def mappingType : TypeExpr := .group [.name "str", .name "Any"] (some "Dict")

/-- The type of an optional mapping from names to values. -/
def optionalMappingType : TypeExpr := .group [mappingType] (some "Optional")

/-- The type of the headers. -/
def headersType : TypeExpr :=
  .group [.group [.name "str", .name "str"] (some "Dict")] (some "Optional")

/-- The type of the body. -/
def bodyType : TypeExpr := .group [.name "Any"] none

/-- A parameter that is nothing unless given. -/
def optionalParameter (name : Text) (type : TypeExpr) : Parameter :=
  ⟨name, some "None", some type⟩

/-- The value, where the condition holds. -/
def given {α : Type} (condition : Bool) (value : α) : List α := if condition then [value] else []

/-- The parameters of the method. -/
def methodParameters (op : IndexedOperation) : List Parameter :=
  [{ name := "self" }] ++
    given (! op.pathParams.isEmpty) ⟨"path_params", none, some mappingType⟩ ++
    given (! op.queryParams.isEmpty) (optionalParameter "query" optionalMappingType) ++
    given (! op.headerParams.isEmpty) (optionalParameter "headers" headersType) ++
    given op.hasBody (optionalParameter "body" bodyType)

/-- The expression for the path of the operation. -/
def operationPath (op : IndexedOperation) (encode : Bool) : Text :=
  pathExpression op.path (some op.pathParams) encode

/-- The HTTP method in upper case. -/
def verb (op : IndexedOperation) : Text := Text.upper op.method

/-- The argument lines of the request. -/
def requestLines (op : IndexedOperation) (encode : Bool) : List Text :=
  ["path=" ++ operationPath op encode ++ ",",
   "method=" ++ Literal.encode (verb op) ++ ","] ++
    given (! op.queryParams.isEmpty) "query=query,".toList ++
    given (! op.headerParams.isEmpty) "headers=headers,".toList ++
    given op.hasBody "body=body,".toList

/-- The code of the method. -/
def requestCode (op : IndexedOperation) (encode : Bool) : Text :=
  "return await self._http.request(\n" ++
    ((requestLines op encode).map fun line => '\t' :: line ++ ['\n']).flatten ++ ")"

/-- The documentation of the method: the summary, if there is one, and the
request. -/
def methodDescription (op : IndexedOperation) : Text :=
  let request := verb op ++ " " ++ op.path
  match nonEmpty? op.summary with
  | none => request
  | some summary => summary ++ "\n\n" ++ request

/-- The method for an operation. -/
def operationMethod (op : IndexedOperation) (encode : Bool) : Function where
  name := op.functionName
  parameters := methodParameters op
  response := some "Any"
  isAsync := true
  description := some (methodDescription op)
  code := { code := requestCode op encode }

end ClientGen.Client
