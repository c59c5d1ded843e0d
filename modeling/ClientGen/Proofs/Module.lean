/-
# The text of tag modules and of the package file

The class of a tag holds its constructor and then one method for each name: of the
operations with one name the last, at the place of the first.  No method takes the
place of the constructor, since names of methods begin with a letter.

With this a tag module is five parts one after the other: the comment, the imports,
the class, the exports, and the empty lines between them.  None of the parts ends
in a line feed of its own, so none is dropped.
-/
import ClientGen.Client.Module
import ClientGen.Proofs.Code
import ClientGen.Proofs.Documentation
import ClientGen.Proofs.Literals
import ClientGen.Proofs.Names
import ClientGen.Proofs.Ordered

namespace ClientGen

namespace Text

/-- The text has a last character, and that is no line feed. -/
def EndsInLine (t : Text) : Prop := ∃ c, t.getLast? = some c ∧ c ≠ '\n'

variable {a b sep : Text} {pieces : List Text}

theorem EndsInLine.ne_nil (h : EndsInLine b) : b ≠ [] := by
  rintro rfl
  obtain ⟨c, last, -⟩ := h
  cases last

theorem EndsInLine.append (h : EndsInLine b) (a : Text) : EndsInLine (a ++ b) := by
  obtain ⟨c, last, noFeed⟩ := h
  exact ⟨c, by simp [last], noFeed⟩

theorem endsInLine_concat (t : Text) {c : Char} (h : c ≠ '\n') : EndsInLine (t ++ [c]) :=
  ⟨c, by simp, h⟩

theorem EndsInLine.indent (h : EndsInLine b) : EndsInLine (Code.indent b) := by
  obtain ⟨c, last, noFeed⟩ := h
  exact ⟨c, (Code.getLast?_indent b).trans last, noFeed⟩

/-- Joined pieces end in a line if each of them does. -/
theorem endsInLine_joinWith (some : pieces ≠ []) (h : ∀ piece ∈ pieces, EndsInLine piece) :
    EndsInLine (joinWith sep pieces) := by
  induction pieces with
  | nil => exact absurd rfl some
  | cons piece rest ih =>
      obtain ⟨first, others⟩ := List.forall_mem_cons.mp h
      cases rest with
      | nil => exact first
      | cons next more =>
          rw [joinWith_cons _ _ (List.cons_ne_nil next more)]
          exact (ih (List.cons_ne_nil next more) others).append _

/-- A text that begins with a character other than a line feed loses line feeds only
behind a beginning that ends in a line. -/
theorem trim_lineFeed_append {t kept after : Text} {c : Char} (head : t.head? = some c)
    (first : c ≠ '\n') (parts : t = kept ++ after) (ends : EndsInLine kept) :
    trim (· = '\n') t = kept ++ dropEndWhile (· = '\n') after := by
  obtain ⟨d, last, noFeed⟩ := ends
  have starts : t.dropWhile (· = '\n') = t := by
    obtain ⟨rest, rfl⟩ := List.head?_eq_some_iff.mp head
    rw [List.dropWhile_cons_of_neg (by simpa using first)]
  have stays : dropEndWhile (· = '\n') kept = kept := by
    apply dropEndWhile_eq_self
    intro x isLast
    rw [last] at isLast
    rw [← Option.some.inj isLast]
    simpa using noFeed
  rw [trim, starts, parts, dropEndWhile_append stays]

/-- A text that begins with a character other than a line feed and ends in a line
has no line feeds at its ends. -/
theorem trim_lineFeed {t : Text} {c : Char} (head : t.head? = some c) (first : c ≠ '\n')
    (last : EndsInLine t) : trim (· = '\n') t = t := by
  have whole := trim_lineFeed_append head first (List.append_nil t).symm last
  rwa [dropEndWhile_eq_rdropWhile, List.rdropWhile_nil, List.append_nil] at whole

end Text

/-! ## The parameters of an operation -/

/-- The operation declares a parameter of this location and name. -/
def Operation.Declares (op : Operation) (location name : Text) : Prop :=
  ∃ p ∈ op.parameters, p.location = some location ∧ p.name = some name ∧ name ≠ []

/-- The names of a location are those declared for it. -/
theorem Operation.mem_paramNames {op : Operation} {location name : Text} :
    name ∈ op.paramNames location ↔ op.Declares location name := by
  rw [paramNames, OperationParameter.uniqueNames, Ordered.mem_distinct, List.mem_filter,
    List.mem_filterMap]
  simp only [List.mem_filter, decide_eq_true_eq]
  constructor
  · rintro ⟨⟨p, ⟨among, hasLocation⟩, hasName⟩, some⟩
    exact ⟨p, among, hasLocation, hasName, by simpa using some⟩
  · rintro ⟨p, among, hasLocation, hasName, some⟩
    exact ⟨⟨p, ⟨among, hasLocation⟩, hasName⟩, by simpa using some⟩

namespace Client

open Code

/-! ## The functions of a class -/

/-- The operation's method has the name that the operation's own identifier, path
and HTTP method give. -/
def Named (op : IndexedOperation) : Prop :=
  op.functionName = Naming.functionName op.operationId op.path op.method

/-- A name that begins with an underscore is the name of no method. -/
theorem Named.ne_of_underscore {op : IndexedOperation} (h : Named op) (rest : Text) :
    op.functionName ≠ '_' :: rest := by
  intro same
  have first : (Naming.functionName op.operationId op.path op.method).head? = some '_' := by
    rw [← h, same, List.head?_cons]
  exact absurd (Naming.isAsciiLetter_of_head?_functionName first) (by decide)

/-- A method does not take the place of the constructor. -/
theorem Named.ne_constructor {op : IndexedOperation} (h : Named op) :
    op.functionName ≠ constructor.name :=
  h.ne_of_underscore "_init__"

/-- The name of a method consists of characters of names. -/
theorem Named.only {op : IndexedOperation} (h : Named op) :
    Text.Only Identifier.isWordChar op.functionName := by
  intro c hc
  have inName : c ∈ Naming.functionName op.operationId op.path op.method := h ▸ hc
  exact Naming.isWordChar_of_mem_functionName inName

/-- The operations that become methods: of those with one name the last, at the
place of the first. -/
def emitted (operations : List IndexedOperation) : List IndexedOperation :=
  (Ordered.ofPairs (operations.map fun op => (op.functionName, op))).map (·.2)

theorem mem_of_mem_emitted {operations : List IndexedOperation} {op : IndexedOperation}
    (h : op ∈ emitted operations) : op ∈ operations := by
  obtain ⟨entry, among, rfl⟩ := List.mem_map.mp h
  obtain ⟨op, inOperations, rfl⟩ := List.mem_map.mp (Ordered.mem_of_mem_ofPairs among)
  exact inOperations

/-- Adding the methods of operations to a class that has the constructor and the
methods of a map of operations puts them into the map. -/
theorem foldl_addFunction (encode : Bool) (operations : List IndexedOperation)
    (named : ∀ op ∈ operations, Named op) (c : Code.Class) (m : List (Text × IndexedOperation))
    (start : c.functions = (constructor.name, constructor) ::
      m.map (Prod.map id (operationMethod · encode))) :
    operations.foldl (fun c op => c.addFunction (operationMethod op encode)) c =
      { c with functions := (constructor.name, constructor) ::
        ((operations.map fun op => (op.functionName, op)).foldl (fun m (k, v) => Ordered.put k v m)
          m).map (Prod.map id (operationMethod · encode)) } := by
  induction operations generalizing c m with
  | nil =>
      rw [List.foldl_nil, List.map_nil, List.foldl_nil, ← start]
  | cons op rest ih =>
      obtain ⟨first, others⟩ := List.forall_mem_cons.mp named
      have added : (c.addFunction (operationMethod op encode)).functions =
          (constructor.name, constructor) ::
            (Ordered.put op.functionName op m).map (Prod.map id (operationMethod · encode)) := by
        have apart : ¬ constructor.name = (operationMethod op encode).name :=
          first.ne_constructor.symm
        rw [Code.Class.addFunction, start, Ordered.put, if_neg apart, ← Ordered.put_map]
        rfl
      rw [List.foldl_cons, ih others _ _ added]
      rfl

/-- The class of a tag has the constructor and the methods of the operations that
become methods. -/
theorem tagClass_eq (className : Text) (encode : Bool) {operations : List IndexedOperation}
    (named : ∀ op ∈ operations, Named op) :
    tagClass className operations encode =
      { name := className
        functions := (constructor.name, constructor) ::
          (Ordered.ofPairs (operations.map fun op => (op.functionName, op))).map
            (Prod.map id (operationMethod · encode)) } := by
  rw [tagClass, foldl_addFunction encode operations named _ [] rfl]
  rfl

/-! ## The code of a method -/

/-- Literals have no tabs. -/
theorem tab_not_mem_encode (t : Text) : '\t' ∉ Literal.encode t :=
  (Literal.only_encode t).not_mem (by decide)

/-- The look-up of an argument holds printable characters only. -/
theorem only_lookUp (name : Text) : Text.Only Text.isPrintable (PathTerm.lookUp name) := by
  have opening : Text.Only Text.isPrintable "str(path_params[" := by decide
  have closing : Text.Only Text.isPrintable "])" := by decide
  unfold PathTerm.lookUp
  exact (opening.append (Literal.only_encode name)).append closing

/-- A term of a path expression holds printable characters only. -/
theorem only_pathTerm (encode : Bool) (term : PathTerm) :
    Text.Only Text.isPrintable (term.text encode) := by
  have opening : Text.Only Text.isPrintable "quote(" := by decide
  have closing : Text.Only Text.isPrintable ", safe='')" := by decide
  cases term with
  | literal t => exact Literal.only_encode t
  | argument name =>
      rw [PathTerm.text]
      split
      · exact (opening.append (only_lookUp name)).append closing
      · exact only_lookUp name

/-- A path expression holds printable characters only. -/
theorem only_pathExpression (path : Text) (declared : Option (List Text)) (encode : Bool) :
    Text.Only Text.isPrintable (pathExpression path declared encode) := by
  rw [pathExpression]
  split
  · exact Literal.only_encode []
  · apply Text.Only.joinWith (by decide)
    intro piece among
    obtain ⟨term, -, rfl⟩ := List.mem_map.mp among
    exact only_pathTerm encode term

/-- What is given is the value, where the condition holds. -/
theorem mem_given_iff {α : Type} {condition : Bool} {value a : α} :
    a ∈ given condition value ↔ condition = true ∧ a = value := by
  cases condition <;> simp [given]

/-- What is given is the value. -/
theorem eq_of_mem_given {α : Type} {condition : Bool} {value a : α}
    (h : a ∈ given condition value) : a = value :=
  (mem_given_iff.mp h).2

/-- The argument lines hold printable characters only. -/
theorem only_requestLines {op : IndexedOperation} {encode : Bool} {line : Text}
    (h : line ∈ requestLines op encode) : Text.Only Text.isPrintable line := by
  have comma : Text.Only Text.isPrintable "," := by decide
  rw [requestLines] at h
  rcases List.mem_append.mp h with h | body
  · rcases List.mem_append.mp h with h | headers
    · rcases List.mem_append.mp h with h | query
      · rcases List.mem_cons.mp h with rfl | h
        · have opening : Text.Only Text.isPrintable "path=" := by decide
          exact (opening.append (only_pathExpression _ _ _)).append comma
        · have opening : Text.Only Text.isPrintable "method=" := by decide
          rw [List.mem_singleton.mp h]
          exact (opening.append (Literal.only_encode _)).append comma
      · rw [eq_of_mem_given query]
        decide
    · rw [eq_of_mem_given headers]
      decide
  · rw [eq_of_mem_given body]
    decide

/-- The argument lines have no tabs. -/
theorem tab_not_mem_requestLines {op : IndexedOperation} {encode : Bool} {line : Text}
    (h : line ∈ requestLines op encode) : '\t' ∉ line :=
  (only_requestLines h).not_mem (by decide)

/-- The code of a request with its argument lines one level further in. -/
def requestText (lines : List Text) : Text :=
  "return await self._http.request(\n" ++
    (lines.map fun line => margin ++ line ++ ['\n']).flatten ++ ")"

/-- Replacing the tabs of the code of a method indents its argument lines. -/
theorem expandTabs_requestCode (op : IndexedOperation) (encode : Bool) :
    expandTabs (requestCode op encode) = requestText (requestLines op encode) := by
  have opening : expandTabs "return await self._http.request(\n" =
      "return await self._http.request(\n" := expandTabs_eq_self (by decide)
  have lines : ∀ lines : List Text, (∀ line ∈ lines, '\t' ∉ line) →
      expandTabs (lines.map fun line => '\t' :: line ++ ['\n']).flatten =
        (lines.map fun line => margin ++ line ++ ['\n']).flatten := by
    intro lines none
    induction lines with
    | nil => rfl
    | cons line rest ih =>
        obtain ⟨first, others⟩ := List.forall_mem_cons.mp none
        have tab : expandTabs ['\t'] = margin := rfl
        have feed : expandTabs ['\n'] = ['\n'] := rfl
        have whole : ('\t' :: line ++ ['\n']) = ['\t'] ++ line ++ ['\n'] := rfl
        rw [List.map_cons, List.flatten_cons, expandTabs_append, ih others, whole,
          expandTabs_append, expandTabs_append, tab, feed, expandTabs_eq_self first]
        rfl
  have closing : expandTabs ")" = ")" := rfl
  have split : requestCode op encode = "return await self._http.request(\n" ++
      ((requestLines op encode).map fun line => '\t' :: line ++ ['\n']).flatten ++ ")" := rfl
  rw [split, expandTabs_append, expandTabs_append, opening, closing,
    lines _ fun _ => tab_not_mem_requestLines]
  rfl

/-! ## The text of a class -/

theorem endsInLine_constructor : Text.EndsInLine constructor.text :=
  ⟨'p', by decide, by decide⟩

theorem endsInLine_operationMethod (op : IndexedOperation) (encode : Bool) :
    Text.EndsInLine (operationMethod op encode).text := by
  have code : Text.EndsInLine (operationMethod op encode).code.text := by
    have text : (operationMethod op encode).code.text = requestText (requestLines op encode) :=
      expandTabs_requestCode op encode
    rw [text]
    exact Text.endsInLine_concat _ (by decide)
  have body : Text.EndsInLine (operationMethod op encode).body := by
    rw [Code.Function.body]
    split
    · exact code
    · exact code.append _
  exact body.indent.append _

/-- The functions of the class of a tag, one after the other. -/
def methodsText (operations : List IndexedOperation) (encode : Bool) : Text :=
  Text.joinWith "\n\n" (constructor.text ::
    (emitted operations).map fun op => (operationMethod op encode).text)

theorem endsInLine_methodsText (operations : List IndexedOperation) (encode : Bool) :
    Text.EndsInLine (methodsText operations encode) := by
  apply Text.endsInLine_joinWith (List.cons_ne_nil _ _)
  rw [List.forall_mem_cons]
  refine ⟨endsInLine_constructor, ?_⟩
  intro t ht
  obtain ⟨op, -, rfl⟩ := List.mem_map.mp ht
  exact endsInLine_operationMethod op encode

/-- A class with its functions one after the other. -/
def classText (className functions : Text) : Text :=
  "class " ++ className ++ ":\n" ++ indent functions

/-- The text of the class of a tag. -/
theorem text_tagClass (className : Text) (encode : Bool) {operations : List IndexedOperation}
    (named : ∀ op ∈ operations, Named op) :
    (tagClass className operations encode).text =
      classText className (methodsText operations encode) := by
  have members : (tagClass className operations encode).members =
      methodsText operations encode := by
    rw [tagClass_eq className encode named, Class.members, methodsText, emitted]
    simp [List.map_map, Function.comp_def]
  have some : (tagClass className operations encode).members ≠ [] := by
    rw [members]
    exact (endsInLine_methodsText operations encode).ne_nil
  have name : (tagClass className operations encode).name = className := by
    rw [tagClass_eq className encode named]
  have text := Code.Class.text_eq some
  rw [members, name] at text
  exact text

/-! ## The text of a module -/

/-- A tag as the comment of its module shows it: on one line, its control characters
escaped. -/
def shownTag (tag : Text) : Text :=
  Docstring.escapeControls (Text.joinWith " " (Text.lineBodies tag))

/-- A tag is shown on one line. -/
theorem inLine_shownTag (tag : Text) : Text.InLine (shownTag tag) := by
  apply Docstring.inLine_escapeControls
  intro c hc
  rcases Text.mem_joinWith hc with inSep | ⟨body, line, inBody⟩
  · rw [List.mem_singleton.mp inSep]
    decide
  · exact Text.inLine_of_mem_lineBodies line c inBody

/-- The comment that a tag module begins with, behind its number sign. -/
def moduleComment (tag : Text) : Text := " Auto-generated API for tag: " ++ shownTag tag

theorem moduleHeader_eq (tag : Text) : moduleHeader tag = '#' :: moduleComment tag := rfl

/-- The comment is one line. -/
theorem inLine_moduleComment (tag : Text) : Text.InLine (moduleComment tag) := by
  have words : Text.InLine " Auto-generated API for tag: " := by decide
  exact Text.inLine_append_iff.mpr ⟨words, inLine_shownTag tag⟩

/-- A tag module with its comment, its class and its exports. -/
def moduleText (header : Text) (encode : Bool) (classText exports : Text) : Text :=
  header ++ "\n\n" ++ Text.joinWith "\n" (moduleImports encode) ++ "\n\n\n" ++ classText ++
    "\n\n\n" ++ exports ++ "\n"

theorem tab_not_mem_exportLine (className : Text) : '\t' ∉ exportLine className := by
  unfold exportLine
  simp [tab_not_mem_encode]

/-- The text of a tag module. -/
theorem text_tagModule (tag className fileName : Text) (encode : Bool)
    {operations : List IndexedOperation} (named : ∀ op ∈ operations, Named op) :
    (tagModule tag className fileName operations encode).text =
      moduleText (moduleHeader tag) encode
        (classText className (methodsText operations encode)) (exportLine className) := by
  have top : (tagModule tag className fileName operations encode).top =
      moduleHeader tag ++ "\n\n" ++ Text.joinWith "\n" (moduleImports encode) :=
    File.top_eq (List.cons_ne_nil _ _) (List.cons_ne_nil _ _)
  have order : (tagClass className operations encode).order = 0 := by
    rw [tagClass_eq className encode named]
  have members : (tagModule tag className fileName operations encode).members =
      [⟨0, classText className (methodsText operations encode)⟩, ⟨1, exportLine className⟩] := by
    have sorted : ∀ a b : Text, Member.sort [⟨1, a⟩, ⟨0, b⟩] = [⟨0, b⟩, ⟨1, a⟩] := by
      intro a b
      rfl
    rw [← sorted, ← text_tagClass className encode named, ← order,
      ← expandTabs_eq_self (tab_not_mem_exportLine className)]
    rfl
  have classTrim : Text.trim (· = '\n') (classText className (methodsText operations encode)) =
      classText className (methodsText operations encode) := by
    have head : (classText className (methodsText operations encode)).head? = some 'c' := by
      unfold classText
      simp
    have last : Text.EndsInLine (classText className (methodsText operations encode)) :=
      (endsInLine_methodsText operations encode).indent.append _
    exact Text.trim_lineFeed head (by decide) last
  have exportTrim : Text.trim (· = '\n') (exportLine className) = exportLine className := by
    have head : (exportLine className).head? = some '_' := by
      unfold exportLine
      simp
    have last : Text.EndsInLine (exportLine className) := Text.endsInLine_concat _ (by decide)
    exact Text.trim_lineFeed head (by decide) last
  rw [File.text_eq (by simp [top]) (by simp [members]), top, members, List.map_cons, List.map_cons,
    List.map_nil, exportTrim, classTrim]
  unfold moduleText
  simp [Text.joinWith]

/-! ## The text of the package file -/

/-- The import lines of the package file. -/
def packageImports (plan : Plan) : List Text := plan.entries.map importLine ++ transportImports

/-- The lines of the package file. -/
def packageLines (plan : Plan) : List Text :=
  [packageHeader, []] ++ packageImports plan ++ [[], [], packageExports plan]

theorem tab_not_mem_packageExports (plan : Plan) : '\t' ∉ packageExports plan := by
  unfold packageExports
  simp [tab_not_mem_encode]

/-- The text of the package file. -/
theorem text_packageFile (plan : Plan) :
    (packageFile plan).text = Text.joinWith "\n" (packageLines plan) ++ ['\n'] := by
  have imports : packageImports plan ≠ [] := by
    simp [packageImports, transportImports]
  have top : (packageFile plan).top =
      packageHeader ++ "\n\n" ++ Text.joinWith "\n" (packageImports plan) :=
    File.top_eq (List.cons_ne_nil _ _) imports
  have members : (packageFile plan).members = [⟨0, packageExports plan⟩] := by
    rw [← expandTabs_eq_self (tab_not_mem_packageExports plan)]
    rfl
  have exportTrim : Text.trim (· = '\n') (packageExports plan) = packageExports plan := by
    have head : (packageExports plan).head? = some '_' := by
      unfold packageExports
      simp
    have last : Text.EndsInLine (packageExports plan) := by
      have ending : Text.EndsInLine "*_common_all]" := ⟨']', by decide, by decide⟩
      unfold packageExports
      exact ending.append _
    exact Text.trim_lineFeed head (by decide) last
  have lines : Text.joinWith "\n" (packageLines plan) =
      packageHeader ++ "\n\n" ++ Text.joinWith "\n" (packageImports plan) ++ "\n\n\n" ++
        packageExports plan := by
    rw [packageLines, Text.joinWith_append _ (by simp) (by simp),
      Text.joinWith_append _ (by simp) imports]
    simp [Text.joinWith]
  rw [File.text_eq (by simp [top]) (by simp [members]), top, members, List.map_cons, List.map_nil,
    exportTrim, lines]
  rfl

end Client

end ClientGen
