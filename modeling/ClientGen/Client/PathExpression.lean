/-
# Path expressions

The path of a request as an expression of the generated source: the literal
stretches of the template as string literals, and the declared placeholders as
look-ups in the arguments.  A placeholder that is not declared stays in the path
as literal text.
-/
import ClientGen.Naming.Template
import ClientGen.Source.Literal

namespace ClientGen

/-- A term of a path expression. -/
inductive PathTerm
  | literal (text : Text)
  | argument (name : Text)
  deriving DecidableEq, Repr

namespace PathTerm

/-- The term of a chunk, where the given names are declared; `none` declares all
names. -/
def ofChunk (declared : Option (List Text)) : Template.Chunk → PathTerm
  | .literal t => .literal t
  | .placeholder name =>
    if declared.all (·.contains name) then .argument name
    else .literal (Template.Chunk.placeholder name).source

/-- The terms of a path. -/
def ofPath (declared : Option (List Text)) (path : Text) : List PathTerm :=
  (Template.chunks path).map (ofChunk declared)

/-- The look-up of an argument by its name. -/
def lookUp (name : Text) : Text := "str(path_params[" ++ Literal.encode name ++ "])"

/-- The text of a term; with `encode`, values are percent-encoded. -/
def text (encode : Bool) : PathTerm → Text
  | .literal t => Literal.encode t
  | .argument name => if encode then "quote(" ++ lookUp name ++ ", safe='')" else lookUp name

end PathTerm

/-- The expression for a path. -/
def pathExpression (path : Text) (declared : Option (List Text)) (encode : Bool) : Text :=
  match PathTerm.ofPath declared path with
  | [] => Literal.encode []
  | terms => Text.joinWith " + " (terms.map (PathTerm.text encode))

end ClientGen
