/-
# No text of a document is code

A tag module is read by the lexical rules for comments and literals, and what is
left when these are replaced by marks is its skeleton.  The skeleton is written
here straight from the names and the shapes of the methods: the texts of the
document, its tags, summaries, paths and names of parameters, have no part in it.
Reading never fails, and it gives this skeleton.

The proof goes along the text: each part that holds a text of the document is read
as one piece, what is joined and indented is read as its parts are, and all the rest
holds no quote and no number sign.
-/
import ClientGen.Proofs.Generator

namespace ClientGen.Client

open Code Lexis

/-! ## Shapes and skeletons -/

/-- How a stretch of a path is written: as a literal, or as the value of an
argument. -/
inductive ChunkKind
  | literal
  | substituted
  deriving DecidableEq, Repr

/-- What of an operation has a part in code: the name of its method, whether it
takes arguments of each kind, and how the stretches of its path are written. -/
structure MethodShape where
  name : Text
  takesPath : Bool
  takesQuery : Bool
  takesHeaders : Bool
  takesBody : Bool
  path : List ChunkKind
  deriving DecidableEq, Repr

/-- How a term of a path expression is written. -/
def kindOf : PathTerm → ChunkKind
  | .literal _ => .literal
  | .argument _ => .substituted

/-- The shape of an operation's method. -/
def shape (op : IndexedOperation) : MethodShape where
  name := op.functionName
  takesPath := ! op.pathParams.isEmpty
  takesQuery := ! op.queryParams.isEmpty
  takesHeaders := ! op.headerParams.isEmpty
  takesBody := op.hasBody
  path := (PathTerm.ofPath (some op.pathParams) op.path).map kindOf

/-- The shapes of the methods of a class, in order. -/
def methodShapes (operations : List IndexedOperation) : List MethodShape :=
  (emitted operations).map shape

/-- The skeleton of a stretch of a path. -/
def ChunkKind.skeleton (encode : Bool) : ChunkKind → Text
  | .literal => [literalMark]
  | .substituted =>
    if encode then "quote(str(path_params[" ++ [literalMark] ++ "]), safe=" ++ [literalMark] ++ ")"
    else "str(path_params[" ++ [literalMark] ++ "])"

/-- The skeleton of a path expression. -/
def pathSkeleton (encode : Bool) : List ChunkKind → Text
  | [] => [literalMark]
  | kinds => Text.joinWith " + " (kinds.map (ChunkKind.skeleton encode))

namespace MethodShape

/-- The parameters of a method. -/
def parameters (m : MethodShape) : List Parameter :=
  [{ name := "self" }] ++
    given m.takesPath ⟨"path_params", none, some mappingType⟩ ++
    given m.takesQuery (optionalParameter "query" optionalMappingType) ++
    given m.takesHeaders (optionalParameter "headers" headersType) ++
    given m.takesBody (optionalParameter "body" bodyType)

/-- The function without its documentation and its code. -/
def declaration (m : MethodShape) : Code.Function where
  name := m.name
  parameters := m.parameters
  response := some "Any"
  isAsync := true

/-- The skeletons of the argument lines. -/
def requestLines (encode : Bool) (m : MethodShape) : List Text :=
  ["path=" ++ pathSkeleton encode m.path ++ ",", "method=" ++ [literalMark] ++ ","] ++
    given m.takesQuery "query=query,".toList ++
    given m.takesHeaders "headers=headers,".toList ++
    given m.takesBody "body=body,".toList

/-- The skeleton of a method. -/
def skeleton (encode : Bool) (m : MethodShape) : Text :=
  m.declaration.signature ++ "\n" ++
    indent ([literalMark] ++ "\n" ++ requestText (m.requestLines encode))

end MethodShape

/-- The skeleton of a tag module. -/
def moduleSkeleton (className : Text) (encode : Bool) (methods : List MethodShape) : Text :=
  moduleText [commentMark] encode
    (classText className
      (Text.joinWith "\n\n" (constructor.text :: methods.map (MethodShape.skeleton encode))))
    ("__all__ = [" ++ [literalMark] ++ "]")

/-! ## Reading the parts -/

/-- Pieces that are read each are read when joined. -/
theorem readsAs_joinWith (sep : Text) (plain : Text.Only isPlain sep)
    {pieces left : List Text} (h : List.Forall₂ ReadsAs pieces left) :
    ReadsAs (Text.joinWith sep pieces) (Text.joinWith sep left) := by
  have between : ReadsAs sep sep := readsAs_of_isPlain plain
  induction h with
  | nil => exact Reads.nil .code
  | @cons piece skeleton pieces left first others ih =>
      cases others with
      | nil => exact first
      | cons second more =>
          rw [Text.joinWith_cons _ _ (List.cons_ne_nil _ _),
            Text.joinWith_cons _ _ (List.cons_ne_nil _ _)]
          exact (first.append between).append ih

/-- A look-up is read as a look-up of some literal. -/
theorem readsAs_lookUp (name : Text) :
    ReadsAs (PathTerm.lookUp name) ("str(path_params[" ++ [literalMark] ++ "])") := by
  have opening : ReadsAs "str(path_params[" "str(path_params[" :=
    readsAs_of_isPlain (by decide)
  have key : ReadsAs (Literal.encode name ++ [']']) ([literalMark] ++ [']']) :=
    Literal.readsAs_encode_append name (by decide)
  have closing : ReadsAs ")" ")" := readsAs_of_isPlain (by decide)
  have whole := (opening.append key).append closing
  unfold PathTerm.lookUp
  simpa using whole

/-- A term of a path expression with a plain character behind it. -/
theorem readsAs_term (encode : Bool) (term : PathTerm) {c : Char} (plain : isPlain c = true) :
    ReadsAs (term.text encode ++ [c]) ((kindOf term).skeleton encode ++ [c]) := by
  have last := readsAs_singleton plain
  cases term with
  | literal t => exact Literal.readsAs_encode_append t plain
  | argument name =>
      refine ReadsAs.append ?_ last
      cases encode with
      | false => exact readsAs_lookUp name
      | true =>
          have opening : ReadsAs "quote(" "quote(" := readsAs_of_isPlain (by decide)
          have closing : ReadsAs ", safe='')" (", safe=" ++ [literalMark] ++ ")") := rfl
          have whole := (opening.append (readsAs_lookUp name)).append closing
          simpa [PathTerm.text, kindOf, ChunkKind.skeleton] using whole

/-- The sum of terms with a plain character behind it. -/
theorem readsAs_terms (encode : Bool) {terms : List PathTerm} (some : terms ≠ []) {c : Char}
    (plain : isPlain c = true) :
    ReadsAs (Text.joinWith " + " (terms.map (PathTerm.text encode)) ++ [c])
      (Text.joinWith " + " ((terms.map kindOf).map (ChunkKind.skeleton encode)) ++ [c]) := by
  induction terms with
  | nil => exact absurd rfl some
  | cons term rest ih =>
      cases rest with
      | nil => exact readsAs_term encode term plain
      | cons second more =>
          have first := readsAs_term encode term (c := ' ') (by decide)
          have plus : ReadsAs "+ " "+ " := readsAs_of_isPlain (by decide)
          have later := ih (List.cons_ne_nil second more)
          have whole := (first.append plus).append later
          simpa [Text.joinWith] using whole

/-- A path expression with a plain character behind it. -/
theorem readsAs_pathExpression (encode : Bool) (declared : Option (List Text)) (path : Text)
    {c : Char} (plain : isPlain c = true) :
    ReadsAs (pathExpression path declared encode ++ [c])
      (pathSkeleton encode ((PathTerm.ofPath declared path).map kindOf) ++ [c]) := by
  rw [pathExpression]
  cases terms : PathTerm.ofPath declared path with
  | nil => exact Literal.readsAs_encode_append [] plain
  | cons term rest => exact readsAs_terms encode (List.cons_ne_nil term rest) plain

/-- The argument lines are read as those of the shape. -/
theorem readsAs_requestLines (op : IndexedOperation) (encode : Bool) :
    List.Forall₂ ReadsAs (requestLines op encode) ((shape op).requestLines encode) := by
  have fixed : ∀ (condition : Bool) (t : Text), Text.Only isPlain t →
      List.Forall₂ ReadsAs (given condition t) (given condition t) := by
    intro condition t plain
    cases condition with
    | false => exact List.Forall₂.nil
    | true => exact List.Forall₂.cons (readsAs_of_isPlain plain) List.Forall₂.nil
  have path : ReadsAs ("path=" ++ operationPath op encode ++ ",")
      ("path=" ++ pathSkeleton encode (shape op).path ++ ",") := by
    have opening : ReadsAs "path=" "path=" := readsAs_of_isPlain (by decide)
    have value := readsAs_pathExpression encode (some op.pathParams) op.path (c := ',') (by decide)
    have whole := opening.append value
    rw [← List.append_assoc, ← List.append_assoc] at whole
    exact whole
  have method : ReadsAs ("method=" ++ Literal.encode (verb op) ++ ",")
      ("method=" ++ [literalMark] ++ ",") := by
    have opening : ReadsAs "method=" "method=" := readsAs_of_isPlain (by decide)
    have value := Literal.readsAs_encode_append (verb op) (c := ',') (by decide)
    have whole := opening.append value
    rw [← List.append_assoc] at whole
    exact whole
  have start := List.Forall₂.cons path (List.Forall₂.cons method List.Forall₂.nil)
  have query := fixed (! op.queryParams.isEmpty) "query=query," (by decide)
  have headers := fixed (! op.headerParams.isEmpty) "headers=headers," (by decide)
  have body := fixed op.hasBody "body=body," (by decide)
  exact List.rel_append (List.rel_append (List.rel_append start query) headers) body

/-- The code of a method is read as that of the argument lines. -/
theorem readsAs_requestText {lines left : List Text} (h : List.Forall₂ ReadsAs lines left) :
    ReadsAs (requestText lines) (requestText left) := by
  have opening :
      ReadsAs "return await self._http.request(\n" "return await self._http.request(\n" :=
    readsAs_of_isPlain (by decide)
  have inside : ReadsAs (lines.map fun line => margin ++ line ++ ['\n']).flatten
      (left.map fun line => margin ++ line ++ ['\n']).flatten := by
    have blanks : ReadsAs margin margin := readsAs_of_isPlain (by decide)
    have feed : ReadsAs ['\n'] ['\n'] := readsAs_of_isPlain (by decide)
    induction h with
    | nil => exact Reads.nil .code
    | cons first _ ih => exact ((blanks.append first).append feed).append ih
  have closing : ReadsAs ")" ")" := readsAs_of_isPlain (by decide)
  exact (opening.append inside).append closing

/-- Characters of names are plain. -/
theorem isPlain_of_isWordChar {c : Char} (word : Identifier.isWordChar c = true) :
    isPlain c = true := by
  cases plain : isPlain c with
  | true => rfl
  | false =>
      simp only [isPlain, Bool.and_eq_false_iff, decide_eq_false_iff_not, not_not] at plain
      rcases plain with (rfl | rfl) | rfl <;> exact absurd word (by decide)

/-- Whether `c` may stand in the signature of a method: a character of names, or one
of those that types and signatures are made with. -/
def isSignatureChar (c : Char) : Bool :=
  Identifier.isWordChar c || " \n(),:->[]=".toList.contains c

/-- What holds of the characters of names and of the fixed ones holds in signatures. -/
theorem of_isSignatureChar (good : Char → Bool)
    (words : ∀ c, Identifier.isWordChar c = true → good c = true)
    (fixed : Text.Only good " \n(),:->[]=") {c : Char} (h : isSignatureChar c = true) :
    good c = true := by
  rw [isSignatureChar, Bool.or_eq_true] at h
  rcases h with word | isFixed
  · exact words c word
  · exact fixed c (List.contains_iff_mem.mp isFixed)

/-- Signatures hold the characters of signatures. -/
theorem only_signature_declaration {m : MethodShape}
    (word : Text.Only Identifier.isWordChar m.name) :
    Text.Only isSignatureChar m.declaration.signature := by
  apply Code.Function.only_signature
  · decide
  · exact word.imp fun c hc => by simp [isSignatureChar, hc]
  · have all : ∀ path query headers body : Bool,
        ∀ p ∈ (MethodShape.mk [] path query headers body []).parameters,
          Text.Only isSignatureChar p.text := by
      decide
    cases m with
    | mk name path query headers body chunks => exact all path query headers body
  · rintro type isAny
    rw [← Option.some.inj isAny]
    decide

/-- Signatures hold neither quotes nor number signs. -/
theorem isPlain_signature {op : IndexedOperation} (named : Named op) :
    Text.Only isPlain (shape op).declaration.signature := by
  have word : Text.Only Identifier.isWordChar (shape op).name := named.only
  apply (only_signature_declaration word).imp
  intro c
  exact of_isSignatureChar isPlain (fun _ => isPlain_of_isWordChar) (by decide)

/-- Every method has documentation. -/
theorem nonEmpty?_description (op : IndexedOperation) (encode : Bool) :
    nonEmpty? (operationMethod op encode).description = some (methodDescription op) := by
  have some : methodDescription op ≠ [] := by
    simp only [methodDescription]
    split <;> simp
  have kept : (! (methodDescription op).isEmpty) = true := by simpa using some
  rw [nonEmpty?]
  exact Option.filter_eq_some_iff.mpr ⟨rfl, kept⟩

/-- The text of a method: its signature, and indented its documentation and its code. -/
theorem text_operationMethod (op : IndexedOperation) (encode : Bool) :
    (operationMethod op encode).text = (operationMethod op encode).signature ++ ['\n'] ++
      indent (Docstring.literal (methodDescription op) ++ ['\n'] ++
        requestText (requestLines op encode)) := by
  rw [Code.Function.text, Code.Function.body, nonEmpty?_description, Block.text_eq]
  simp only [operationMethod, expandTabs_requestCode]
  rfl

/-- A method is read as its shape. -/
theorem readsAs_operationMethod (encode : Bool) {op : IndexedOperation} (named : Named op) :
    ReadsAs (operationMethod op encode).text ((shape op).skeleton encode) := by
  have signature : ReadsAs (operationMethod op encode).signature (shape op).declaration.signature :=
    readsAs_of_isPlain (isPlain_signature named)
  have feed : ReadsAs ['\n'] ['\n'] := readsAs_of_isPlain (by decide)
  have documentation := Docstring.readsAs_literal (methodDescription op)
  have code := readsAs_requestText (readsAs_requestLines op encode)
  have body := ((documentation.append feed).append code).indentBy 4
  rw [text_operationMethod]
  exact (signature.append feed).append body

/-! ## Reading a module -/

/-- The comment of a module with its line feed is read as a comment. -/
theorem readsAs_moduleHeader (tag : Text) :
    ReadsAs (moduleHeader tag ++ ['\n']) [commentMark, '\n'] := by
  rw [moduleHeader_eq]
  exact readsAs_comment (inLine_moduleComment tag).lineFeed_not_mem

/-- The class of a tag is read as its shape. -/
theorem readsAs_classText {className : Text} (spelled : Naming.IsClassName className)
    (encode : Bool) {operations : List IndexedOperation} (named : ∀ op ∈ operations, Named op) :
    ReadsAs (classText className (methodsText operations encode))
      (classText className (Text.joinWith "\n\n" (constructor.text ::
        (methodShapes operations).map (MethodShape.skeleton encode)))) := by
  have opening : ReadsAs "class " "class " := readsAs_of_isPlain (by decide)
  have name : ReadsAs className className :=
    readsAs_of_isPlain (spelled.only.imp fun _ => isPlain_of_isWordChar)
  have colon : ReadsAs ":\n" ":\n" := readsAs_of_isPlain (by decide)
  have first : ReadsAs constructor.text constructor.text := readsAs_of_isPlain (by decide)
  have methods : List.Forall₂ ReadsAs
      ((emitted operations).map fun op => (operationMethod op encode).text)
      ((methodShapes operations).map (MethodShape.skeleton encode)) := by
    rw [methodShapes, List.map_map, List.forall₂_map_left_iff, List.forall₂_map_right_iff,
      List.forall₂_same]
    intro op among
    exact readsAs_operationMethod encode (named op (mem_of_mem_emitted among))
  have functions := readsAs_joinWith "\n\n" (by decide) (List.Forall₂.cons first methods)
  exact ((opening.append name).append colon).append (functions.indentBy 4)

/-- A tag module is read as its skeleton. -/
theorem readsAs_tagModule (tag fileName : Text) {className : Text}
    (spelled : Naming.IsClassName className) (encode : Bool) {operations : List IndexedOperation}
    (named : ∀ op ∈ operations, Named op) :
    ReadsAs (tagModule tag className fileName operations encode).text
      (moduleSkeleton className encode (methodShapes operations)) := by
  have header := readsAs_moduleHeader tag
  have imports : ReadsAs ("\n" ++ Text.joinWith "\n" (moduleImports encode) ++ "\n\n\n")
      ("\n" ++ Text.joinWith "\n" (moduleImports encode) ++ "\n\n\n") := by
    apply readsAs_of_isPlain
    cases encode <;> decide
  have body := readsAs_classText spelled encode named
  have exports : ReadsAs ("\n\n\n__all__ = [" ++ Literal.encode className ++ "]\n")
      ("\n\n\n__all__ = [" ++ [literalMark] ++ "]\n") := by
    have opening : ReadsAs "\n\n\n__all__ = [" "\n\n\n__all__ = [" := readsAs_of_isPlain (by decide)
    have name := Literal.readsAs_encode_append className (c := ']') (by decide)
    have feed : ReadsAs "\n" "\n" := readsAs_of_isPlain (by decide)
    have whole := (opening.append name).append feed
    simpa using whole
  have whole := ((header.append imports).append body).append exports
  rw [text_tagModule tag className fileName encode named]
  unfold moduleSkeleton moduleText exportLine
  simpa using whole

end ClientGen.Client

namespace ClientGen.Generator

open Client

/-- No text of a document is code.  Every tag module of a generation is read to its
end without an error, and what is left when its comments and literals are replaced
by marks is written from the class name, the choice of encoding and the shapes of
the methods alone.  So modules that agree on these leave the same, whatever document
they are made from and whatever texts stand in it. -/
theorem text_is_not_code (document : Fields) (encode : Bool) :
    (generateClient document encode).files =
        Transport.file :: (entryGroups document encode).map (moduleOf encode) ++
          [packageFile (start document encode).generate.plan] ∧
      (entryGroups document encode).length = (Document.groups document).length ∧
      (∀ pair ∈ entryGroups document encode,
        Lexis.skeleton (moduleOf encode pair).text =
          some (moduleSkeleton pair.1.className encode (methodShapes pair.2.2))) ∧
      ∀ document', ∀ pair ∈ entryGroups document encode, ∀ pair' ∈ entryGroups document' encode,
        pair.1.className = pair'.1.className → methodShapes pair.2.2 = methodShapes pair'.2.2 →
          Lexis.skeleton (moduleOf encode pair).text =
            Lexis.skeleton (moduleOf encode pair').text := by
  have left : ∀ document, ∀ pair ∈ entryGroups document encode,
      Lexis.skeleton (moduleOf encode pair).text =
        some (moduleSkeleton pair.1.className encode (methodShapes pair.2.2)) := by
    intro document pair among
    have spelled := (spelled_of_mem_entryGroups among).2
    have named := named_of_mem_entryGroups among
    exact (readsAs_tagModule pair.2.1 pair.1.fileName spelled encode named).skeleton_eq
  refine ⟨files_generate document encode, length_entryGroups document encode, left document, ?_⟩
  intro document' pair among pair' among' sameClass sameShapes
  rw [left document pair among, left document' pair' among', sameClass, sameShapes]

/-- A document with one operation, whose texts are free. -/
def oneOperation (path tag summary name : Text) : Fields :=
  [("paths".toList, .obj [(path, .obj [("get".toList, .obj
    [("operationId".toList, .str "read".toList),
      ("tags".toList, .arr [.str tag]),
      ("summary".toList, .str summary),
      ("parameters".toList, .arr [.obj
        [("name".toList, .str name), ("in".toList, .str "path".toList)]])])])])]

/-- A document of harmless texts. -/
def harmlessDocument : Fields := oneOperation "/users/\x7bid\x7d" "users" "Reads a user." "id"

/-- A document with quotes, backslashes, number signs and line ends wherever texts may
stand. -/
def hostileDocument : Fields :=
  oneOperation "/'\"\\#\n\x7bi'\r\"d\x7d" "users\n'''\"\"\"#\\"
    "\"\"\"\\\"\"\"\"\n\tpass # '" "i'\r\"d"

/-- The one module of the hostile document leaves what the module of the harmless
document leaves. -/
theorem text_is_not_code_hostile :
    ∃ pair ∈ entryGroups hostileDocument true, ∃ pair' ∈ entryGroups harmlessDocument true,
      pair.2.1 ≠ pair'.2.1 ∧
        Lexis.skeleton (moduleOf true pair).text = Lexis.skeleton (moduleOf true pair').text := by
  obtain ⟨-, -, -, same⟩ := text_is_not_code hostileDocument true
  have hostile : 0 < (entryGroups hostileDocument true).length := by decide
  have harmless : 0 < (entryGroups harmlessDocument true).length := by decide
  refine ⟨_, List.getElem_mem hostile, _, List.getElem_mem harmless, by decide +revert, ?_⟩
  exact same harmlessDocument _ (List.getElem_mem hostile) _ (List.getElem_mem harmless)
    (by decide +revert) (by decide +revert)

end ClientGen.Generator
