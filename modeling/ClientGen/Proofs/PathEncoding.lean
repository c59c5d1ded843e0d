/-
# Encoding wraps path values

A client looks its path values up as they are given, or percent-encodes each of them.  The
choice goes with a generator into every module that it makes, and it is read at two places:
among the imports, and in the terms of a path expression.

The two clients of a document are compared from the inside outwards: terms, expressions,
methods, modules, projects.  That the choice shows nowhere else is said twice, once of the
parts that a module is made of and once of its text.  For the text it matters that neither
the replacing of tabs nor the indenting reaches into a path expression, so that the text of
a module is its path expressions with the same text around them.
-/
import ClientGen.Fetch
import ClientGen.Proofs.Collapse
import ClientGen.Proofs.Package

namespace ClientGen

namespace Client

open Code

/-! ## Expressions -/

/-- A term of a path expression and its encoding: a literal stays, and the look-up of a
value is wrapped. -/
inductive EncodedTerm : Text → Text → Prop
  | literal (t : Text) : EncodedTerm (Literal.encode t) (Literal.encode t)
  | value (name : Text) :
      EncodedTerm (PathTerm.lookUp name) ("quote(" ++ PathTerm.lookUp name ++ ", safe='')")

/-- A path expression and its encoding, term by term. -/
def EncodedExpression (raw encoded : Text) : Prop :=
  ∃ terms terms', raw = Text.joinWith " + " terms ∧ encoded = Text.joinWith " + " terms' ∧
    List.Forall₂ EncodedTerm terms terms'

theorem encodedTerm_text (term : PathTerm) : EncodedTerm (term.text false) (term.text true) := by
  cases term with
  | literal t => exact .literal t
  | argument name => exact .value name

/-- Encoded or not, the expression for a path has the same terms in the same order. -/
theorem encodedExpression_pathExpression (path : Text) (declared : Option (List Text)) :
    EncodedExpression (pathExpression path declared false) (pathExpression path declared true) := by
  rw [pathExpression, pathExpression]
  cases PathTerm.ofPath declared path with
  | nil => exact ⟨[_], [_], rfl, rfl, .cons (.literal []) .nil⟩
  | cons term rest =>
      refine ⟨_, _, rfl, rfl, ?_⟩
      rw [List.forall₂_map_left_iff, List.forall₂_map_right_iff, List.forall₂_same]
      exact fun term _ => encodedTerm_text term

/-- The path expression of an operation and its encoding. -/
def pathsOf (op : IndexedOperation) : Text × Text :=
  (operationPath op false, operationPath op true)

theorem encodedExpression_pathsOf (op : IndexedOperation) :
    EncodedExpression (pathsOf op).1 (pathsOf op).2 :=
  encodedExpression_pathExpression op.path (some op.pathParams)

/-! ## Methods -/

/-- A method with the given code: the call of a request with a path expression and then
with the given argument lines. -/
def withCall (method : Function) (path : Text) (others : List Text) : Function :=
  { method with code := { code := "return await self._http.request(\n" ++
      ((("path=" ++ path ++ ",") :: others).map fun line => '\t' :: line ++ ['\n']).flatten ++
        ")" } }

/-- The code of a method is not part of its signature. -/
theorem signature_withCall (method : Function) (path : Text) (others : List Text) :
    (withCall method path others).signature = method.signature := rfl

/-- Methods under their names, and the same methods under the same names with the path
expressions encoded.  The expressions are given in pairs. -/
inductive EncodedMethods :
    List (Text × Text) → List (Text × Function) → List (Text × Function) → Prop
  | nil : EncodedMethods [] [] []
  | cons (name : Text) (method : Function) (others : List Text) {path path' : Text}
      {paths methods methods'} :
      EncodedExpression path path' → EncodedMethods paths methods methods' →
        EncodedMethods ((path, path') :: paths)
          ((name, withCall method path others) :: methods)
          ((name, withCall method path' others) :: methods')

/-- The argument lines of a request behind that of the path. -/
def otherLines (op : IndexedOperation) : List Text := (requestLines op false).tail

/-- The encoding of path values is seen in the path expression of a method alone. -/
theorem operationMethod_eq (op : IndexedOperation) (encode : Bool) :
    operationMethod op encode =
      withCall (operationMethod op false) (operationPath op encode) (otherLines op) := rfl

/-- The methods of operations have the same names, signatures and documentation, and the
same argument lines but for the path. -/
theorem encodedMethods_map (entries : List (Text × IndexedOperation)) :
    EncodedMethods (entries.map fun entry => pathsOf entry.2)
      (entries.map (Prod.map id (operationMethod · false)))
      (entries.map (Prod.map id (operationMethod · true))) := by
  induction entries with
  | nil => exact .nil
  | cons entry rest ih =>
      exact .cons entry.1 (operationMethod entry.2 false) (otherLines entry.2)
        (encodedExpression_pathsOf entry.2) ih

/-! ## Texts -/

/-- Two texts that differ in argument lines with a path only.  The expressions in these
lines are given in pairs. -/
inductive SameButPaths : List (Text × Text) → Text → Text → Prop
  | same (t : Text) : SameButPaths [] t t
  | path (before path path' : Text) {paths : List (Text × Text)} {after after' : Text} :
      SameButPaths paths after after' →
        SameButPaths ((path, path') :: paths)
          (before ++ "\n            path=" ++ path ++ ",\n" ++ after)
          (before ++ "\n            path=" ++ path' ++ ",\n" ++ after')

namespace SameButPaths

variable {paths paths' : List (Text × Text)} {a a' b b' : Text}

/-- More text in front belongs to what is before the first path. -/
theorem append_left (t : Text) (h : SameButPaths paths a a') :
    SameButPaths paths (t ++ a) (t ++ a') := by
  cases h with
  | same => exact .same _
  | path before path path' rest =>
      have longer := SameButPaths.path (t ++ before) path path' rest
      simpa only [List.append_assoc] using longer

theorem append (h : SameButPaths paths a a') (h' : SameButPaths paths' b b') :
    SameButPaths (paths ++ paths') (a ++ b) (a' ++ b') := by
  induction h with
  | same t => exact h'.append_left t
  | path before path path' rest ih =>
      have longer := SameButPaths.path before path path' ih
      simpa only [List.append_assoc, List.cons_append] using longer

theorem append_right (h : SameButPaths paths a a') (t : Text) :
    SameButPaths paths (a ++ t) (a' ++ t) := by
  have longer := h.append (.same t)
  rwa [List.append_nil] at longer

/-- Texts that differ in one path each may be joined behind a text. -/
theorem joinWith {α : Type} (sep : Text) {pathsOf : α → Text × Text} {t t' : α → Text}
    (each : ∀ x, SameButPaths [pathsOf x] (t x) (t' x)) (h : SameButPaths paths a a')
    (xs : List α) :
    SameButPaths (paths ++ xs.map pathsOf) (Text.joinWith sep (a :: xs.map t))
      (Text.joinWith sep (a' :: xs.map t')) := by
  induction xs generalizing paths a a' with
  | nil =>
      rw [List.map_nil, List.append_nil]
      exact h
  | cons x rest ih =>
      have later := (h.append_right sep).append (ih (each x))
      rwa [List.singleton_append] at later

end SameButPaths

/-- The lines of the code of a method behind that of the path, in its class. -/
def linesBehind (op : IndexedOperation) : List Text := (codeLines op false).tail.tail

/-- The code of a method in its class, with the line of its path as it is. -/
theorem joinWith_codeLines (op : IndexedOperation) (encode : Bool) :
    Text.joinWith "\n" (codeLines op encode) =
      List.replicate 8 ' ' ++ "return await self._http.request(" ++ "\n            path=" ++
        operationPath op encode ++ ",\n" ++ Text.joinWith "\n" (linesBehind op) := by
  have lines : codeLines op encode =
      (List.replicate 8 ' ' ++ "return await self._http.request(") ::
        (List.replicate 12 ' ' ++ "path=" ++ operationPath op encode ++ ",") ::
          linesBehind op := rfl
  have behind : linesBehind op ≠ [] := List.cons_ne_nil _ _
  have opening : "\n            path=".toList = "\n" ++ (List.replicate 12 ' ' ++ "path=") := rfl
  have closing : ",\n".toList = "," ++ "\n" := rfl
  rw [lines, Text.joinWith_cons _ _ (List.cons_ne_nil _ _), Text.joinWith_cons _ _ behind,
    opening, closing]
  simp only [List.append_assoc]

/-- A method in its class and its encoding differ in the line with the path. -/
theorem sameButPaths_method (op : IndexedOperation) :
    SameButPaths [pathsOf op] (indent (operationMethod op false).text)
      (indent (operationMethod op true).text) := by
  have signature : (operationMethod op true).signature = (operationMethod op false).signature := by
    rw [operationMethod_eq op true, signature_withCall]
  rw [indent_operationMethod, indent_operationMethod, signature, joinWith_codeLines,
    joinWith_codeLines]
  have whole := SameButPaths.path
    (indent (operationMethod op false).signature ++ '\n' :: (bodyMargin ++
      (Docstring.indentedLiteral bodyMargin (methodDescription op) ++ '\n' ::
        (List.replicate 8 ' ' ++ "return await self._http.request("))))
    (operationPath op false) (operationPath op true)
    (.same (Text.joinWith "\n" (linesBehind op)))
  simpa only [pathsOf, List.append_assoc, List.cons_append] using whole

/-- A class and its encoding differ in the paths of its methods. -/
theorem sameButPaths_class (className : Text) (winners : List IndexedOperation) :
    SameButPaths (winners.map pathsOf) (collapsedText className winners false)
      (collapsedText className winners true) := by
  have functions : ∀ encode, (functionTexts winners encode).map indent =
      indent constructor.text :: winners.map fun op => indent (operationMethod op encode).text := by
    intro encode
    simp only [functionTexts, List.map_cons, List.map_map, Function.comp_def]
  have joined := SameButPaths.joinWith "\n\n" sameButPaths_method
    (.same (indent constructor.text)) winners
  unfold collapsedText
  rw [functions, functions]
  exact joined.append_left ("class " ++ className ++ ":\n")

/-! ## Modules -/

/-- A module and its encoding.  The imports differ in one line, and the class, which has its
constructor and then its methods, in the paths of the methods.  So do the texts. -/
structure EncodedModule (raw encoded : File) : Prop where
  name_eq : encoded.name = raw.name
  header_eq : encoded.header = raw.header
  blocks_eq : encoded.blocks = raw.blocks
  imports_eq : ∃ front back, raw.imports = front ++ back ∧
    encoded.imports = front ++ quoteImport :: back ∧ quoteImport ∉ front ++ back
  class_eq : ∃ className paths methods methods', EncodedMethods paths methods methods' ∧
    raw.classes = [(className,
      { name := className, functions := (constructor.name, constructor) :: methods })] ∧
    encoded.classes = [(className,
      { name := className, functions := (constructor.name, constructor) :: methods' })] ∧
    ∃ top rest rest', top = Text.joinWith "\n" raw.header ++ "\n\n" ++ typingImport ++ "\n" ∧
      raw.text = top ++ rest ∧ encoded.text = top ++ (quoteImport ++ "\n") ++ rest' ∧
      SameButPaths paths rest rest'

/-- The text of a module behind the imports of other packages. -/
def restText (className : Text) (winners : List IndexedOperation) (encode : Bool) : Text :=
  "\n" ++ httpImport ++ "\n\n\n" ++ collapsedText className winners encode ++ "\n\n\n" ++
    exportLine className ++ "\n"

theorem sameButPaths_rest (className : Text) (winners : List IndexedOperation) :
    SameButPaths (winners.map pathsOf) (restText className winners false)
      (restText className winners true) :=
  ((((sameButPaths_class className winners).append_left
    ("\n" ++ httpImport ++ "\n\n\n")).append_right "\n\n\n").append_right
      (exportLine className)).append_right "\n"

/-- The text of a module, with the import of the encoding as a line of its own. -/
theorem text_tagModule_eq (tag className fileName : Text) (encode : Bool)
    {operations : List IndexedOperation} (named : ∀ op ∈ operations, Named op) :
    (tagModule tag className fileName operations encode).text =
      moduleHeader tag ++ "\n\n" ++ typingImport ++ "\n" ++
        (if encode then quoteImport ++ "\n" else []) ++
        restText className (emitted operations) encode := by
  have imports : Text.joinWith "\n" (moduleImports encode) = typingImport ++ "\n" ++
      (if encode then quoteImport ++ "\n" else []) ++ "\n" ++ httpImport := by
    cases encode <;> simp [moduleImports, given, Text.joinWith]
  rw [text_tagModule tag className fileName encode named, classText_methodsText, moduleText,
    imports, restText]
  simp only [List.append_assoc]

/-- The module of a tag and its encoding. -/
theorem encodedModule_tagModule (tag className fileName : Text)
    {operations : List IndexedOperation} (named : ∀ op ∈ operations, Named op) :
    EncodedModule (tagModule tag className fileName operations false)
      (tagModule tag className fileName operations true) where
  name_eq := rfl
  header_eq := rfl
  blocks_eq := rfl
  imports_eq := ⟨[typingImport], [[], httpImport], rfl, rfl, by decide⟩
  class_eq := by
    have methods := encodedMethods_map
      (Ordered.ofPairs (operations.map fun op => (op.functionName, op)))
    have paths : (emitted operations).map pathsOf =
        (Ordered.ofPairs (operations.map fun op => (op.functionName, op))).map
          fun entry => pathsOf entry.2 := by
      rw [emitted, List.map_map]
      rfl
    have classes : ∀ encode, (tagModule tag className fileName operations encode).classes =
        [(className, tagClass className operations encode)] := fun _ => rfl
    have rest := sameButPaths_rest className (emitted operations)
    rw [paths] at rest
    refine ⟨className, _, _, _, methods, ?_, ?_,
      moduleHeader tag ++ "\n\n" ++ typingImport ++ "\n", _, _, rfl, ?_, ?_, rest⟩
    · rw [classes, tagClass_eq className false named]
    · rw [classes, tagClass_eq className true named]
    · rw [text_tagModule_eq tag className fileName false named, if_neg Bool.false_ne_true,
        List.append_nil]
    · rw [text_tagModule_eq tag className fileName true named, if_pos rfl]

end Client

/-! ## Projects -/

namespace Generator

/-- The generator of a value that is taken as a document, once it has made its files.  Only
an object is a document. -/
def generated (document : Value) (encode : Bool) : Except GenError Generator :=
  (Document.ofValue document).map fun fields => (start fields encode).generate

/-- The plan of a document is the same, encoded or not. -/
theorem plan_encode (document : Fields) :
    (start document true).generate.plan = (start document false).generate.plan := by
  rw [plan_generate, plan_generate]

/-- The modules of a document and their encodings. -/
theorem encodedModules (document : Fields) :
    List.Forall₂ Client.EncodedModule
      ((entryGroups document false).map (moduleOf false))
      ((entryGroups document true).map (moduleOf true)) := by
  have pairs : entryGroups document true = entryGroups document false := by
    rw [entryGroups, entryGroups, plan_encode]
  rw [pairs, List.forall₂_map_left_iff, List.forall₂_map_right_iff, List.forall₂_same]
  intro pair among
  exact Client.encodedModule_tagModule pair.2.1 pair.1.className pair.1.fileName
    (named_of_mem_entryGroups among)

/-- Encoding wraps the path values of a client and changes nothing else.  Every object gives
a client, encoded or not.  The two have files of the same names in the same order, equal
plans, and the same transport and package files.  A module of a tag and its encoding have
the same header, the same class with the same methods and the same exports; the import of
the encoding is a line of the second alone; and two methods differ in the line with their
path, where each look-up of a value is wrapped and the literals stay. -/
theorem encoding_wraps_path_values (document : Fields) :
    ∃ raw encoded : Generator, generated (.obj document) false = .ok raw ∧
      generated (.obj document) true = .ok encoded ∧
      encoded.project.fileNames = raw.project.fileNames ∧ encoded.plan = raw.plan ∧
      ∃ modules modules',
        raw.project.files = Transport.file :: modules ++ [Client.packageFile raw.plan] ∧
        encoded.project.files = Transport.file :: modules' ++ [Client.packageFile raw.plan] ∧
        List.Forall₂ Client.EncodedModule modules modules' := by
  have names : (generateClient document true).fileNames =
      (generateClient document false).fileNames := by
    rw [fileNames_generate, fileNames_generate, plan_encode]
  have files := files_generate document true
  rw [plan_encode] at files
  exact ⟨_, _, rfl, rfl, names, plan_encode document, _, _, files_generate document false, files,
    encodedModules document⟩

end Generator

end ClientGen
