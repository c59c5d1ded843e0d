/-
# Tag modules and the package file

The module of a tag holds one class with a method for each of its operations; of
operations with one name the last remains.  The package file re-exports the
classes of a plan, in the order of the plan, and the transport.
-/
import ClientGen.Client.Method
import ClientGen.Client.Transport
import ClientGen.Plan

namespace ClientGen.Client

open Code

/-- The comment that a tag module begins with: the tag on one line, its control
characters escaped. -/
def moduleHeader (tag : Text) : Text :=
  "# Auto-generated API for tag: " ++
    Docstring.escapeControls (Text.joinWith " " (Text.lineBodies tag))

/-- The import of the names that annotations use. -/
def typingImport : Text := "from typing import Any, Dict, Optional"

/-- The import of the percent-encoding of path values. -/
def quoteImport : Text := "from urllib.parse import quote"

/-- The import of the HTTP client. -/
def httpImport : Text := "from .common import HttpClient"

/-- The import lines of a tag module. -/
def moduleImports (encode : Bool) : List Text :=
  [typingImport] ++ given encode quoteImport ++ [[], httpImport]

/-- The constructor of a tag class. -/
def constructor : Function where
  name := "__init__"
  parameters := [{ name := "self" }, ⟨"http", none, some (.group [.name "HttpClient"] none)⟩]
  response := some "None"
  code := { code := "self._http = http" }

/-- The class of a tag. -/
def tagClass (className : Text) (operations : List IndexedOperation) (encode : Bool) : Code.Class :=
  operations.foldl (fun c op => c.addFunction (operationMethod op encode))
    (Code.Class.addFunction constructor { name := className })

/-- The line that exports a class. -/
def exportLine (className : Text) : Text := "__all__ = [" ++ Literal.encode className ++ "]"

/-- The module of a tag. -/
def tagModule (tag className fileName : Text) (operations : List IndexedOperation)
    (encode : Bool) : File where
  name := fileName
  header := [moduleHeader tag]
  imports := moduleImports encode
  classes := [(className, tagClass className operations encode)]
  blocks := [⟨1, exportLine className⟩]

/-- The file name of a tag that no plan gives one. -/
def defaultFileName (tag : Text) : Text := Naming.tagModuleName tag ++ ".py"

/-- The module of a tag, with names that follow from the tag where none are
given. -/
def standaloneModule (tag : Text) (className fileName : Option Text)
    (operations : List IndexedOperation) (encode : Bool) : File :=
  tagModule tag ((nonEmpty? className).getD (Naming.tagClassName tag))
    ((nonEmpty? fileName).getD (defaultFileName tag)) operations encode

/-- The name of the package file. -/
def packageFileName : Text := "__init__.py"

/-- The comment that the package file begins with. -/
def packageHeader : Text :=
  "# Auto-generated. Re-exports every tag API and the shared transport helper."

/-- The line that imports the class of an entry. -/
def importLine (e : PlanEntry) : Text :=
  "from ." ++ e.moduleName ++ " import " ++ e.className

/-- The lines that import the transport. -/
def transportImports : List Text :=
  ["from .common import *", "from .common import __all__ as _common_all"]

/-- The line that exports the classes of a plan and the transport. -/
def packageExports (plan : Plan) : Text :=
  "__all__ = [" ++ (plan.classNames.map fun name => Literal.encode name ++ ", ").flatten ++
    "*_common_all]"

/-- The package file. -/
def packageFile (plan : Plan) : File where
  name := packageFileName
  header := [packageHeader]
  imports := plan.entries.map importLine ++ transportImports
  blocks := [{ code := packageExports plan }]

end ClientGen.Client
