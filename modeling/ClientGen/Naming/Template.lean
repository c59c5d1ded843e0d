/-
# Path templates

A path of a document is literal text with placeholders: an opening brace, a
name without line feed, and the first closing brace after it.  A brace that
starts no placeholder is literal text.

`chunks` cuts a path into its literal stretches and its placeholders, from left
to right; a name may itself contain an opening brace.
-/
import ClientGen.Text.Basic

namespace ClientGen.Template

/-- A stretch of a path: literal text, or a placeholder with its name. -/
inductive Chunk
  | literal (text : Text)
  | placeholder (name : Text)
  deriving DecidableEq, Repr

/-- The text before the first closing brace, if no line feed comes before the
brace. -/
def nameBefore? : Text → Option Text
  | [] => none
  | c :: rest =>
    if c = '}' then some []
    else if c = '\n' then none
    else (nameBefore? rest).map (c :: ·)

/-- The placeholder that a text begins with. -/
def placeholder? : Text → Option Text
  | [] => none
  | c :: rest => if c = '{' then nameBefore? rest else none

/-- Puts a character in front of the first stretch if that is literal, else
before it as a stretch of its own. -/
def consLiteral (c : Char) : List Chunk → List Chunk
  | .literal t :: rest => .literal (c :: t) :: rest
  | chunks => .literal [c] :: chunks

/-- The chunks of a path of which the first `skip` characters belong to a
placeholder already taken. -/
def chunksFrom : Nat → Text → List Chunk
  | _, [] => []
  | skip + 1, _ :: rest => chunksFrom skip rest
  | 0, c :: rest =>
    match placeholder? (c :: rest) with
    | some name => .placeholder name :: chunksFrom (name.length + 1) rest
    | none => consLiteral c (chunksFrom 0 rest)

/-- The chunks of a path, from left to right. -/
def chunks (path : Text) : List Chunk := chunksFrom 0 path

/-- A chunk as it stands in the path. -/
def Chunk.source : Chunk → Text
  | .literal t => t
  | .placeholder name => '{' :: name ++ ['}']

/-- The literal text of a path, without its placeholders. -/
def literalText (path : Text) : Text :=
  (chunks path).flatMap fun
    | .literal t => t
    | .placeholder _ => []

end ClientGen.Template
