/-
# Which classes a module defines

What a source text defines is read off its code, that is, off its skeleton, so that a
line of documentation that looks like a class does not count.  A line of code defines
a class if it begins with the word for it, in whatever depth it stands.

A tag module defines its own class and no other: the lines of its methods begin with
other words, and indentation does not change what a line begins with.
-/
import ClientGen.Proofs.Skeleton

namespace ClientGen

/-! ## Classes in code -/

/-- The name of the class that a line of code begins. -/
def classOfLine? (line : Text) : Option Text :=
  (Text.dropStart? "class " (line.dropWhile (· = ' '))).map (·.takeWhile Identifier.isWordChar)

/-- The classes that a code defines, by their lines. -/
def classesIn (code : Text) : List Text := (Text.splitAt '\n' code).filterMap classOfLine?

/-- The classes that a source text defines. -/
def definedClasses (t : Text) : Option (List Text) := (Lexis.skeleton t).map classesIn

theorem classesIn_append_lineFeed (t u : Text) :
    classesIn (t ++ '\n' :: u) = classesIn t ++ classesIn u := by
  rw [classesIn, Text.splitAt_append_sep, List.filterMap_append]
  rfl

/-- A line that begins with another character begins no class. -/
theorem classOfLine?_of_head? {line : Text} {c : Char} (head : line.head? = some c)
    (noBlank : c ≠ ' ') (other : c ≠ 'c') : classOfLine? line = none := by
  obtain ⟨rest, rfl⟩ := List.head?_eq_some_iff.mp head
  have start : (c :: rest).dropWhile (· = ' ') = c :: rest :=
    List.dropWhile_cons_of_neg (by simpa using noBlank)
  have no : "class ".toList.isPrefixOf (c :: rest) = false := by
    simp [List.isPrefixOf, Ne.symm other]
  rw [classOfLine?, start, Text.dropStart?, no]
  rfl

/-- A margin does not matter for the class that a line begins. -/
theorem classOfLine?_margin (line : Text) :
    classOfLine? (Code.margin ++ line) = classOfLine? line := by
  have blanks : (Code.margin ++ line).dropWhile (· = ' ') = line.dropWhile (· = ' ') := by
    simp [Code.margin]
  rw [classOfLine?, blanks, classOfLine?]

theorem classOfLine?_indentLine (line : Text) :
    classOfLine? (Text.indentLine Code.margin line) = classOfLine? line := by
  rw [Text.indentLine]
  split
  · exact classOfLine?_margin line
  · rfl

/-- Indented code defines the classes that the code defines. -/
theorem classesIn_indent {t : Text} (h : ∀ c ∈ t, Text.isLineEnd c = true → c = '\n') :
    classesIn (Code.indent t) = classesIn t := by
  have bodies : ∀ piece ∈ Text.splitAt '\n' t, Text.InLine piece := by
    intro piece cut c hc
    obtain ⟨inText, noFeed⟩ := Text.mem_of_mem_splitAt cut hc
    by_contra lineEnd
    exact noFeed (h c inText (by simpa using lineEnd))
  have indented : Code.indent t =
      Text.joinWith ['\n'] ((Text.splitAt '\n' t).map (Text.indentLine Code.margin)) := by
    have joined : Text.indentBy Code.margin (Text.joinWith ['\n'] (Text.splitAt '\n' t)) =
        Text.joinWith ['\n'] ((Text.splitAt '\n' t).map (Text.indentLine Code.margin)) :=
      Text.indentBy_joinWith Code.margin bodies
    rw [Text.joinWith_splitAt] at joined
    exact joined
  have noFeed : ∀ line ∈ (Text.splitAt '\n' t).map (Text.indentLine Code.margin), '\n' ∉ line := by
    intro line among inLine
    obtain ⟨piece, cut, rfl⟩ := List.mem_map.mp among
    rw [Text.indentLine_eq] at inLine
    rcases List.mem_append.mp inLine with inMargin | inPiece
    · split at inMargin
      · exact absurd inMargin (by decide)
      · cases inMargin
    · exact (Text.mem_of_mem_splitAt cut inPiece).2 rfl
  have some : (Text.splitAt '\n' t).map (Text.indentLine Code.margin) ≠ [] := by
    simpa using Text.splitAt_ne_nil '\n' t
  rw [classesIn, indented, Text.splitAt_joinWith some noFeed, List.filterMap_map]
  exact List.filterMap_congr fun line _ => classOfLine?_indentLine line

/-- Code parts with an empty line between each two define what the parts define. -/
theorem classesIn_joinWith (parts : List Text) :
    classesIn (Text.joinWith "\n\n" parts) = parts.flatMap classesIn := by
  induction parts with
  | nil => rfl
  | cons part rest ih =>
      cases rest with
      | nil => simp [Text.joinWith]
      | cons next more =>
          have split : Text.joinWith "\n\n" (part :: next :: more) =
              part ++ '\n' :: ([] ++ '\n' :: Text.joinWith "\n\n" (next :: more)) := by
            simp [Text.joinWith]
          rw [split, classesIn_append_lineFeed, classesIn_append_lineFeed, ih]
          rfl

/-! ## The class of a module -/

namespace Client

open Code Lexis

/-- The stretches of a path leave no line end. -/
theorem inLine_pathSkeleton (encode : Bool) (kinds : List ChunkKind) :
    Text.InLine (pathSkeleton encode kinds) := by
  have chunk : ∀ kind : ChunkKind, Text.InLine (kind.skeleton encode) := by
    intro kind
    cases kind <;> cases encode <;> decide
  rw [pathSkeleton.eq_def]
  split
  · decide
  · intro c hc
    rcases Text.mem_joinWith hc with inSep | ⟨piece, among, inPiece⟩
    · have plus : Text.InLine " + " := by decide
      exact plus c inSep
    · obtain ⟨kind, -, rfl⟩ := List.mem_map.mp among
      exact chunk kind c inPiece

/-- The argument lines of a shape are lines that begin no class. -/
theorem requestLines_line {encode : Bool} {m : MethodShape} {line : Text}
    (h : line ∈ m.requestLines encode) :
    Text.InLine line ∧ classOfLine? line = none := by
  rw [MethodShape.requestLines] at h
  rcases List.mem_append.mp h with h | body
  · rcases List.mem_append.mp h with h | headers
    · rcases List.mem_append.mp h with h | query
      · rcases List.mem_cons.mp h with rfl | h
        · constructor
          · simp only [Text.inLine_append_iff]
            exact ⟨⟨by decide, inLine_pathSkeleton encode m.path⟩, by decide⟩
          · have head : ("path=" ++ pathSkeleton encode m.path ++ ",").head? = some 'p' := by simp
            exact classOfLine?_of_head? head (by decide) (by decide)
        · rw [List.mem_singleton.mp h]
          exact ⟨by decide, by decide⟩
      · rw [eq_of_mem_given query]
        exact ⟨by decide, by decide⟩
    · rw [eq_of_mem_given headers]
      exact ⟨by decide, by decide⟩
  · rw [eq_of_mem_given body]
    exact ⟨by decide, by decide⟩

/-- A line that begins no class leaves the others as they are. -/
theorem classesIn_line {line : Text} (noFeed : '\n' ∉ line) (none : classOfLine? line = none) :
    classesIn line = [] := by
  rw [classesIn, Text.splitAt_eq_singleton noFeed, List.filterMap_cons_none none]
  rfl

/-- The code of a request defines no class. -/
theorem classesIn_requestText {lines : List Text}
    (h : ∀ line ∈ lines, Text.InLine line ∧ classOfLine? line = none) :
    classesIn (requestText lines) = [] := by
  have arguments : classesIn ((lines.map fun line => margin ++ line ++ ['\n']).flatten ++ ")") =
      [] := by
    induction lines with
    | nil => decide
    | cons line rest ih =>
        obtain ⟨⟨noEnds, noClass⟩, others⟩ := List.forall_mem_cons.mp h
        have noFeed : '\n' ∉ margin ++ line := by
          intro among
          rcases List.mem_append.mp among with inMargin | inLine
          · exact absurd inMargin (by decide)
          · exact noEnds.lineFeed_not_mem inLine
        have none : classOfLine? (margin ++ line) = none := (classOfLine?_margin line).trans noClass
        have split : ((line :: rest).map fun line => margin ++ line ++ ['\n']).flatten ++ ")" =
            (margin ++ line) ++
              '\n' :: ((rest.map fun line => margin ++ line ++ ['\n']).flatten ++ ")") := by
          simp
        rw [split, classesIn_append_lineFeed, classesIn_line noFeed none, ih others]
        rfl
  have split : requestText lines = "return await self._http.request(" ++
      '\n' :: ((lines.map fun line => margin ++ line ++ ['\n']).flatten ++ ")") := by
    unfold requestText
    simp
  have opening : classesIn "return await self._http.request(" = [] := by decide
  rw [split, classesIn_append_lineFeed, opening, arguments]
  rfl

/-- What of a signature does not depend on the name: on one line it has no line feed,
and on several lines it defines no class. -/
theorem signature_rest (m : MethodShape) :
    '\n' ∉ Text.joinWith ", " (m.declaration.signatureParameters.map Parameter.text) ++
        m.declaration.closing ∧
      classesIn
        ((m.declaration.signatureParameters.map fun p => indent (p.text ++ ",\n")).flatten ++
          m.declaration.closing) = [] := by
  have all : ∀ path query headers body : Bool,
      let f := (MethodShape.mk [] path query headers body []).declaration
      '\n' ∉ Text.joinWith ", " (f.signatureParameters.map Parameter.text) ++ f.closing ∧
        classesIn ((f.signatureParameters.map fun p => indent (p.text ++ ",\n")).flatten ++
          f.closing) = [] := by
    decide
  cases m with
  | mk name path query headers body chunks => exact all path query headers body

/-- The signature of a method defines no class. -/
theorem classesIn_signature {m : MethodShape} (word : Text.Only Identifier.isWordChar m.name) :
    classesIn m.declaration.signature = [] := by
  obtain ⟨oneLine, perLine⟩ := signature_rest m
  have opening : m.declaration.opening = "async def " ++ m.name ++ "(" := rfl
  have noFeed : '\n' ∉ m.declaration.opening := by
    have inName : '\n' ∉ m.name := word.not_mem (by decide)
    rw [opening]
    simp [inName]
  have none : ∀ t : Text, classOfLine? (m.declaration.opening ++ t) = none := by
    intro t
    have head : (m.declaration.opening ++ t).head? = some 'a' := by
      rw [opening]
      simp
    exact classOfLine?_of_head? head (by decide) (by decide)
  rw [Code.Function.signature]
  split
  · rw [Code.Function.oneLine, List.append_assoc]
    exact classesIn_line (fun among => (List.mem_append.mp among).elim noFeed oneLine) (none _)
  · have split : m.declaration.perLine = m.declaration.opening ++ '\n' ::
        ((m.declaration.signatureParameters.map fun p => indent (p.text ++ ",\n")).flatten ++
          m.declaration.closing) := by
      unfold Code.Function.perLine
      simp
    have first := classesIn_line noFeed (by simpa using none [])
    rw [split, classesIn_append_lineFeed, first, perLine]
    rfl

/-- Whether a character ends no line but as a line feed. -/
def endsByFeed (c : Char) : Bool := ! Text.isLineEnd c || c = '\n'

theorem endsByFeed_of_isLineEnd {c : Char} (h : Text.isLineEnd c = false) :
    endsByFeed c = true := by
  simp [endsByFeed, h]

/-- Characters of names end no line. -/
theorem isLineEnd_eq_false_of_isWordChar {c : Char} (word : Identifier.isWordChar c = true) :
    Text.isLineEnd c = false :=
  Text.isLineEnd_eq_false_of Identifier.isWordChar (by decide) word

theorem inLine_of_isWordChar {t : Text} (word : Text.Only Identifier.isWordChar t) :
    Text.InLine t :=
  fun c hc => isLineEnd_eq_false_of_isWordChar (word c hc)

/-- The lines of a signature end by line feeds. -/
theorem endsByFeed_signature {m : MethodShape} (word : Text.Only Identifier.isWordChar m.name) :
    Text.Only endsByFeed m.declaration.signature := by
  apply (only_signature_declaration word).imp
  intro c
  refine of_isSignatureChar endsByFeed ?_ (by decide)
  intro c hc
  exact endsByFeed_of_isLineEnd (isLineEnd_eq_false_of_isWordChar hc)

/-- The lines of a request end by line feeds. -/
theorem endsByFeed_requestText {lines : List Text}
    (h : ∀ line ∈ lines, Text.InLine line) : Text.Only endsByFeed (requestText lines) := by
  have blanks : Text.Only endsByFeed margin := by decide
  have feed : Text.Only endsByFeed ['\n'] := by decide
  unfold requestText
  simp only [Text.only_append_iff]
  refine ⟨⟨by decide, ?_⟩, by decide⟩
  intro c hc
  obtain ⟨t, among, inText⟩ := List.mem_flatten.mp hc
  obtain ⟨line, inLines, rfl⟩ := List.mem_map.mp among
  rcases List.mem_append.mp inText with inFront | inFeed
  · rcases List.mem_append.mp inFront with inMargin | inLine
    · exact blanks c inMargin
    · exact endsByFeed_of_isLineEnd (h line inLines c inLine)
  · exact feed c inFeed

/-- The mark of the documentation and the code of a method. -/
def bodySkeleton (encode : Bool) (m : MethodShape) : Text :=
  [literalMark] ++ "\n" ++ requestText (m.requestLines encode)

theorem endsByFeed_bodySkeleton (encode : Bool) (m : MethodShape) :
    Text.Only endsByFeed (bodySkeleton encode m) := by
  rw [bodySkeleton]
  simp only [Text.only_append_iff]
  refine ⟨⟨by decide, by decide⟩, endsByFeed_requestText ?_⟩
  intro line among
  exact (requestLines_line among).1

/-- Indented code defines what the code defines, where lines end by line feeds. -/
theorem classesIn_indent_of_endsByFeed {t : Text} (h : Text.Only endsByFeed t) :
    classesIn (indent t) = classesIn t := by
  apply classesIn_indent
  intro c hc lineEnd
  simpa [endsByFeed, lineEnd] using h c hc

/-- The skeleton of a method ends its lines by line feeds and defines no class. -/
theorem method_defines_none {encode : Bool} {m : MethodShape}
    (word : Text.Only Identifier.isWordChar m.name) :
    Text.Only endsByFeed (m.skeleton encode) ∧ classesIn (m.skeleton encode) = [] := by
  have split : m.skeleton encode =
      m.declaration.signature ++ '\n' :: indent (bodySkeleton encode m) := by
    unfold MethodShape.skeleton bodySkeleton
    simp
  have mark : classesIn [literalMark] = [] := by decide
  have body : classesIn (bodySkeleton encode m) = [] := by
    have cut : bodySkeleton encode m =
        [literalMark] ++ '\n' :: requestText (m.requestLines encode) := rfl
    rw [cut, classesIn_append_lineFeed, mark, classesIn_requestText fun _ => requestLines_line]
    rfl
  rw [split]
  constructor
  · intro c hc
    rcases List.mem_append.mp hc with inSignature | hc
    · exact endsByFeed_signature word c inSignature
    · rcases List.mem_cons.mp hc with rfl | inBody
      · decide
      · rcases Text.mem_indentBy inBody with inMargin | inside
        · have blanks : Text.Only endsByFeed margin := by decide
          exact blanks c inMargin
        · exact endsByFeed_bodySkeleton encode m c inside
  · rw [classesIn_append_lineFeed, classesIn_signature word,
      classesIn_indent_of_endsByFeed (endsByFeed_bodySkeleton encode m), body]
    rfl

/-- The line that begins a class. -/
theorem classesIn_classLine {className : Text} (word : Text.Only Identifier.isWordChar className) :
    classesIn ("class " ++ className ++ ":") = [className] := by
  have noFeed : '\n' ∉ "class " ++ className ++ ":" := by
    have inName : '\n' ∉ className := word.not_mem (by decide)
    simp [inName]
  have start : ("class " ++ className ++ ":").dropWhile (· = ' ') =
      "class " ++ className ++ ":" := by
    simp
  have rest : Text.dropStart? "class " ("class " ++ className ++ ":") =
      some (className ++ ":") := by
    simp [Text.dropStart?, List.isPrefixOf]
  have name : (className ++ ":").takeWhile Identifier.isWordChar = className := by
    rw [List.takeWhile_append_of_pos word]
    have stop : ":".toList.takeWhile Identifier.isWordChar = [] := by decide
    rw [stop, List.append_nil]
  have found : classOfLine? ("class " ++ className ++ ":") = some className := by
    rw [classOfLine?, start, rest, Option.map_some, name]
  rw [classesIn, Text.splitAt_eq_singleton noFeed, List.filterMap_cons_some found]
  rfl

/-- The skeleton of a module defines the class of the module and no other. -/
theorem classesIn_moduleSkeleton {className : Text}
    (wordClass : Text.Only Identifier.isWordChar className) (encode : Bool)
    {methods : List MethodShape} (word : ∀ m ∈ methods, Text.Only Identifier.isWordChar m.name) :
    classesIn (moduleSkeleton className encode methods) = [className] := by
  let parts := constructor.text :: methods.map (MethodShape.skeleton encode)
  have none : ∀ part ∈ parts, Text.Only endsByFeed part ∧ classesIn part = [] := by
    rw [List.forall_mem_cons]
    refine ⟨⟨by decide, by decide⟩, ?_⟩
    intro part among
    obtain ⟨m, inMethods, rfl⟩ := List.mem_map.mp among
    exact method_defines_none (word m inMethods)
  have functions : classesIn (indent (Text.joinWith "\n\n" parts)) = [] := by
    have feeds : Text.Only endsByFeed (Text.joinWith "\n\n" parts) :=
      Text.Only.joinWith (by decide) fun part among => (none part among).1
    rw [classesIn_indent_of_endsByFeed feeds, classesIn_joinWith, List.flatMap_eq_nil_iff]
    exact fun part among => (none part among).2
  have top : classesIn ([commentMark] ++ "\n\n" ++ Text.joinWith "\n" (moduleImports encode) ++
      "\n\n") = [] := by
    cases encode <;> decide
  have exports : classesIn ("\n\n__all__ = [" ++ [literalMark] ++ "]\n") = [] := by decide
  have split : moduleSkeleton className encode methods =
      ([commentMark] ++ "\n\n" ++ Text.joinWith "\n" (moduleImports encode) ++ "\n\n") ++
        '\n' :: (("class " ++ className ++ ":") ++
          '\n' :: (indent (Text.joinWith "\n\n" parts) ++
            '\n' :: ("\n\n__all__ = [" ++ [literalMark] ++ "]\n"))) := by
    unfold moduleSkeleton moduleText classText
    simp [parts]
  rw [split, classesIn_append_lineFeed, classesIn_append_lineFeed, classesIn_append_lineFeed, top,
    classesIn_classLine wordClass, functions, exports]
  rfl

end Client

end ClientGen
