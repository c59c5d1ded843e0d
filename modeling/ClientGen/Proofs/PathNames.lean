/-
# Names of methods by their paths

A path without an identifier of its own names its method.  What counts is the literal text
of its segments: the placeholders are taken out of each segment, and a segment of which
nothing is left does not count.

A path is given here by its segments, and a segment by the pieces that it is written with.
How the path is cut again, at its slashes and at the first brace that closes each
placeholder, is then what has to be followed; and two paths with different placeholders or
with more segments of no literal text are two lists of segments that differ in edits.
-/
import ClientGen.Naming.Names
import ClientGen.Proofs.PathExpressions
import Mathlib.Logic.Relation

namespace ClientGen

namespace Template

/-! ## Segments and their pieces -/

/-- A piece that a segment may be written with: literal text without braces and slashes, or
a placeholder whose name ends neither itself nor the segment. -/
def Chunk.IsPiece : Chunk → Prop
  | .literal t => '{' ∉ t ∧ '}' ∉ t ∧ '/' ∉ t
  | .placeholder name => '}' ∉ name ∧ '/' ∉ name ∧ '\n' ∉ name

instance : (piece : Chunk) → Decidable piece.IsPiece
  | .literal t => inferInstanceAs (Decidable ('{' ∉ t ∧ '}' ∉ t ∧ '/' ∉ t))
  | .placeholder name => inferInstanceAs (Decidable ('}' ∉ name ∧ '/' ∉ name ∧ '\n' ∉ name))

/-- What a piece has of literal text. -/
def Chunk.literalPart : Chunk → Text
  | .literal t => t
  | .placeholder _ => []

/-- A segment, by its pieces from left to right. -/
abbrev Segment := List Chunk

namespace Segment

/-- A segment as it stands in a path. -/
def source (s : Segment) : Text := s.flatMap Chunk.source

/-- What a segment has of literal text. -/
def literalPart (s : Segment) : Text := s.flatMap Chunk.literalPart

end Segment

/-- The path of segments: a slash between each two. -/
def pathOf (segments : List Segment) : Text := Text.joinWith "/" (segments.map Segment.source)

/-- All segments are written with pieces. -/
def IsWritten (segments : List Segment) : Prop := ∀ s ∈ segments, ∀ piece ∈ s, piece.IsPiece

instance (segments : List Segment) : Decidable (IsWritten segments) :=
  inferInstanceAs (Decidable (∀ s ∈ segments, ∀ piece ∈ s, piece.IsPiece))

/-! ## Cutting a path into its segments -/

/-- No piece holds a slash. -/
theorem Chunk.IsPiece.slash_not_mem {piece : Chunk} (h : piece.IsPiece) : '/' ∉ piece.source := by
  cases piece with
  | literal t => exact h.2.2
  | placeholder name =>
      have inName : '/' ∉ name := h.2.1
      simp [Chunk.source, inName]

/-- A path is cut at its slashes into its segments. -/
theorem splitAt_pathOf {segments : List Segment} (some : segments ≠ [])
    (written : IsWritten segments) :
    Text.splitAt '/' (pathOf segments) = segments.map Segment.source := by
  have noSlash : ∀ t ∈ segments.map Segment.source, '/' ∉ t := by
    intro t among inText
    obtain ⟨s, inSegments, rfl⟩ := List.mem_map.mp among
    obtain ⟨piece, inSegment, inPiece⟩ := List.mem_flatMap.mp inText
    exact (written s inSegments piece inSegment).slash_not_mem inPiece
  exact Text.splitAt_joinWith (List.map_eq_nil_iff.not.mpr some) noSlash

/-! ## Taking the placeholders out -/

theorem literalText_eq (path : Text) :
    literalText path = (chunks path).flatMap Chunk.literalPart := by
  apply List.flatMap_congr
  intro chunk _
  cases chunk <;> rfl

/-- A placeholder leaves no literal text. -/
theorem literalText_placeholder {name : Text} (isName : IsName name) (rest : Text) :
    literalText ((Chunk.placeholder name).source ++ rest) = literalText rest := by
  rw [literalText_eq, chunks_placeholder isName, List.flatMap_cons, ← literalText_eq]
  rfl

/-- A character in front of chunks stands in front of their literal text. -/
theorem flatMap_literalPart_consLiteral (c : Char) (chunks : List Chunk) :
    (consLiteral c chunks).flatMap Chunk.literalPart = c :: chunks.flatMap Chunk.literalPart := by
  cases chunks with
  | nil => rfl
  | cons chunk rest => cases chunk <;> rfl

/-- A character that opens no placeholder is literal text. -/
theorem literalText_cons {c : Char} (other : c ≠ '{') (rest : Text) :
    literalText (c :: rest) = c :: literalText rest := by
  have none : ¬ Begins (c :: rest) := by
    rintro ⟨name, -, start⟩
    rw [Chunk.source, List.cons_append, List.cons_prefix_cons] at start
    exact other start.1.symm
  rw [literalText_eq, chunks_cons none, flatMap_literalPart_consLiteral, ← literalText_eq]

/-- A text without opening braces is literal text. -/
theorem literalText_append {t : Text} (none : '{' ∉ t) (rest : Text) :
    literalText (t ++ rest) = t ++ literalText rest := by
  induction t with
  | nil => rfl
  | cons c t ih =>
      obtain ⟨first, others⟩ := not_or.mp (List.mem_cons.not.mp none)
      rw [List.cons_append, literalText_cons (Ne.symm first), ih others]
      rfl

/-- The literal text of a segment is that of its pieces. -/
theorem literalText_source {s : Segment} (pieces : ∀ piece ∈ s, piece.IsPiece) :
    literalText s.source = s.literalPart := by
  induction s with
  | nil => rfl
  | cons piece rest ih =>
      obtain ⟨first, others⟩ := List.forall_mem_cons.mp pieces
      rw [Segment.source, List.flatMap_cons, ← Segment.source, Segment.literalPart,
        List.flatMap_cons, ← Segment.literalPart, ← ih others]
      cases piece with
      | literal t => exact literalText_append first.1 _
      | placeholder name => exact literalText_placeholder ⟨first.1, first.2.2⟩ _

/-! ## Edits that leave the literal text -/

/-- The literal texts of segments without the empty ones. -/
def literalParts (segments : List Segment) : List Text :=
  (segments.map Segment.literalPart).filter (! ·.isEmpty)

/-- An edit of a path that leaves its literal text: a placeholder gets another name, or a
segment without literal text is taken out, which is empty or consists of placeholders. -/
inductive Edit : List Segment → List Segment → Prop
  | rename {before after : List Segment} {front back : List Chunk} {name name' : Text} :
      Edit (before ++ (front ++ .placeholder name :: back) :: after)
        (before ++ (front ++ .placeholder name' :: back) :: after)
  | takeOut {before after : List Segment} {segment : Segment} :
      (∀ t, .literal t ∈ segment → t = []) →
      Edit (before ++ segment :: after) (before ++ after)

/-- A segment of placeholders has no literal text. -/
theorem Segment.literalPart_eq_nil {s : Segment} (none : ∀ t, .literal t ∈ s → t = []) :
    s.literalPart = [] := by
  apply List.flatMap_eq_nil_iff.mpr
  intro piece among
  cases piece with
  | literal t => exact none t among
  | placeholder name => rfl

/-- An edit leaves the literal texts. -/
theorem Edit.literalParts_eq {segments segments' : List Segment} (h : Edit segments segments') :
    literalParts segments = literalParts segments' := by
  cases h with
  | rename => simp [literalParts, Segment.literalPart, Chunk.literalPart]
  | takeOut none => simp [literalParts, Segment.literalPart_eq_nil none]

/-- Edits one after the other, made or taken back, leave the literal texts. -/
theorem literalParts_eq_of_edits {segments segments' : List Segment}
    (h : Relation.EqvGen Edit segments segments') :
    literalParts segments = literalParts segments' := by
  induction h with
  | rel segments segments' edit => exact edit.literalParts_eq
  | refl segments => rfl
  | symm segments segments' _ ih => exact ih.symm
  | trans first second third _ _ ih ih' => exact ih.trans ih'

end Template

namespace Naming

open Template

/-- Empty texts may be left out before a function that leaves them empty. -/
theorem filter_map_filter {f : Text → Text} (empty : f [] = []) (texts : List Text) :
    ((texts.filter (! ·.isEmpty)).map f).filter (! ·.isEmpty) =
      (texts.map f).filter (! ·.isEmpty) := by
  induction texts with
  | nil => rfl
  | cons t rest ih =>
      cases t with
      | nil => simp [empty, ih]
      | cons c t => simp [List.filter_cons, ih]

/-- The literal segments of a path are those of the segments that it is written with. -/
theorem literalSegments_pathOf {segments : List Segment} (written : IsWritten segments) :
    literalSegments (pathOf segments) = literalParts segments := by
  by_cases none : segments = []
  · subst none
    rfl
  · have texts : (segments.map Segment.source).map literalText =
        segments.map Segment.literalPart := by
      rw [List.map_map]
      exact List.map_congr_left fun s among => literalText_source (written s among)
    rw [literalSegments, splitAt_pathOf none written, filter_map_filter rfl, texts]
    rfl

/-- What the literal text of segments gives for a name: the texts that are not empty with
underscores between them, or `root` where there are none. -/
def literalStem (segments : List Segment) : Text :=
  match literalParts segments with
  | [] => "root"
  | texts => Text.joinWith "_" texts

/-- A path names its method by its literal text alone: by the HTTP method, an underscore,
and the literal texts of its segments, or `root`.  So renaming placeholders and putting in
or taking out segments without literal text, any number of times and anywhere, does not
change the name. -/
theorem path_names_by_literal_text (method : Text) (segments : List Segment)
    (written : IsWritten segments) :
    pathFunctionName (pathOf segments) method =
        Identifier.sanitize (method ++ "_" ++ literalStem segments) ∧
      ∀ segments', IsWritten segments' → Relation.EqvGen Edit segments segments' →
        pathFunctionName (pathOf segments') method =
          pathFunctionName (pathOf segments) method := by
  have name : ∀ segments, IsWritten segments → pathFunctionName (pathOf segments) method =
      Identifier.sanitize (method ++ "_" ++ literalStem segments) := by
    intro segments written
    rw [pathFunctionName, literalSegments_pathOf written, literalStem]
    cases literalParts segments <;> rfl
  refine ⟨name segments written, ?_⟩
  intro segments' written' edits
  have stem : literalStem segments' = literalStem segments := by
    rw [literalStem, ← literalParts_eq_of_edits edits, literalStem]
  rw [name segments written, name segments' written', stem]

/-- A path with an empty segment in front and a segment of two pieces. -/
def filePath : List Segment :=
  [[], [.literal "files"], [.placeholder "na\x7bme", .literal ".json"]]

/-- The same path with other names, without the slash in front, and with segments of
placeholders only. -/
def editedFilePath : List Segment :=
  [[.literal "files"], [.placeholder "a", .placeholder "b"],
    [.placeholder "id", .literal ".json"], []]

/-- On the two paths: they are written as expected, and both give one name. -/
theorem path_names_by_literal_text_file :
    pathOf filePath = "/files/\x7bna\x7bme\x7d.json" ∧
      pathOf editedFilePath = "files/\x7ba\x7d\x7bb\x7d/\x7bid\x7d.json/" ∧
      IsWritten filePath ∧ IsWritten editedFilePath ∧
      Relation.EqvGen Edit filePath editedFilePath ∧
      pathFunctionName (pathOf filePath) "get" = "get_files_json" ∧
      pathFunctionName (pathOf editedFilePath) "get" = "get_files_json" := by
  have written : IsWritten filePath := by decide
  have written' : IsWritten editedFilePath := by decide
  have edits : Relation.EqvGen Edit filePath editedFilePath := by
    have first : Edit filePath [[.literal "files"], [.placeholder "na\x7bme", .literal ".json"]] :=
      @Edit.takeOut [] _ [] (by simp)
    have second : Edit [[.literal "files"], [.placeholder "na\x7bme", .literal ".json"]]
        [[.literal "files"], [.placeholder "id", .literal ".json"]] :=
      @Edit.rename [[.literal "files"]] [] [] [.literal ".json"] "na\x7bme" "id"
    have third : Edit [[.literal "files"], [.placeholder "a", .placeholder "b"],
          [.placeholder "id", .literal ".json"]]
        [[.literal "files"], [.placeholder "id", .literal ".json"]] :=
      @Edit.takeOut [[.literal "files"]] _ [.placeholder "a", .placeholder "b"] (by simp)
    have fourth : Edit editedFilePath [[.literal "files"], [.placeholder "a", .placeholder "b"],
          [.placeholder "id", .literal ".json"]] :=
      @Edit.takeOut [[.literal "files"], [.placeholder "a", .placeholder "b"],
        [.placeholder "id", .literal ".json"]] [] [] (by simp)
    have there := Relation.EqvGen.trans _ _ _ (.rel _ _ first) (.rel _ _ second)
    have back := Relation.EqvGen.trans _ _ _ (.rel _ _ fourth) (.rel _ _ third)
    exact .trans _ _ _ there (.symm _ _ back)
  obtain ⟨name, same⟩ := path_names_by_literal_text "get" filePath written
  have stem : Identifier.sanitize ("get" ++ "_" ++ literalStem filePath) = "get_files_json" := by
    decide
  exact ⟨by decide, by decide, written, written', edits, name.trans stem,
    (same editedFilePath written' edits).trans (name.trans stem)⟩

end Naming

end ClientGen
