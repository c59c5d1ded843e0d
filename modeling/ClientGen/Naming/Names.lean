/-
# Names of methods, classes and modules

The method of an operation is named by the operation's own identifier where
that leaves a name, and else by its HTTP method and path.  A tag gives two
stems, one for its class and one for its module; both are sanitised, so two tags
may share them.
-/
import ClientGen.Naming.Identifier
import ClientGen.Naming.Template
import ClientGen.Text.Case

namespace ClientGen.Naming

/-- The literal text of the segments of a path, without the empty ones. -/
def literalSegments (path : Text) : List Text :=
  (((Text.splitAt '/' path).filter (! ·.isEmpty)).map Template.literalText).filter (! ·.isEmpty)

/-- The name that a path and an HTTP method give: the method and the literal
segments, or the method and `root`. -/
def pathFunctionName (path method : Text) : Text :=
  let segments := literalSegments path
  let stem : Text := if segments.isEmpty then "root" else Text.joinWith "_" segments
  Identifier.sanitize (method ++ "_" ++ stem)

/-- The name of the method for an operation with the given identifier, if it has
one. -/
def functionName (operationId : Option Text) (path method : Text) : Text :=
  let own := (operationId.map Identifier.sanitize).getD []
  Identifier.complete "op_" (if own.isEmpty then pathFunctionName path method else own)

/-- A text with its first character in upper case. -/
def capitalize : Text → Text
  | [] => []
  | c :: rest => Text.upperChar c ++ rest

/-- The sanitised `name`, or `fallback` where nothing is left of it, with
`digitMark` before a leading digit. -/
def stem (fallback digitMark name : Text) : Text :=
  let clean := Identifier.sanitize name
  let chosen := if clean.isEmpty then fallback else clean
  if Identifier.startsWithDigit chosen then digitMark ++ chosen else chosen

/-- The stem of the class names of a tag. -/
def classStem (tag : Text) : Text := stem "Default" "Tag" (capitalize tag)

/-- The stem of the module names of a tag. -/
def moduleStem (tag : Text) : Text := stem "default" "tag_" (Text.lower tag)

/-- What class names end in. -/
def classSuffix : Text := "Api"

/-- What module names end in. -/
def moduleSuffix : Text := "_api"

/-- The class name of a tag. -/
def tagClassName (tag : Text) : Text := classStem tag ++ classSuffix

/-- The module name of a tag. -/
def tagModuleName (tag : Text) : Text := moduleStem tag ++ moduleSuffix

end ClientGen.Naming
