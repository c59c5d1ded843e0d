/-
# Methods in the text of their class

A method is indented as a part of its class, and its documentation and code once more
within the method.  The parts meet at line feeds, so the text of a class has them one after
the other: the signature, the documentation, and the lines of the code.

Code is written with a tab before each argument line, and the tabs are replaced in all of
it; then it is indented twice, line by line, a line ending at ten kinds of characters.  None
of this reaches into the argument lines, as they hold printable characters only: a literal
gives tabs and line ends by escapes.
-/
import ClientGen.Proofs.DocumentationValues
import ClientGen.Proofs.Skeleton

namespace ClientGen

namespace Text

/-- Nothing is left of the line. -/
def AtLineEnd (t : Text) : Prop := t = [] ∨ t.head? = some '\n'

/-- What follows a trimmed end and a line feed. -/
theorem AtLineEnd.trimmed {after : Text} (h : AtLineEnd after) (rest : Text) :
    AtLineEnd (dropEndWhile (· = '\n') after ++ '\n' :: rest) := by
  obtain ⟨dropped, whole⟩ := start_dropEndWhile (· = '\n') after
  cases kept : dropEndWhile (· = '\n') after with
  | nil => exact Or.inr rfl
  | cons c more =>
      rw [kept] at whole
      rcases h with rfl | next
      · cases whole
      · rw [← whole] at next
        exact Or.inr next

end Text

namespace Code

open Text (AtLineEnd EndsInLine)

variable {f : Function} {c : Class} {file : File} {text : Text}

/-! ## Functions in their texts -/

/-- The texts that a function is rendered in: that of a class that has the function, and
that of a file with such a class. -/
inductive RenderedIn (f : Function) : Text → Prop
  | inClass {c : Class} {key : Text} (has : (key, f) ∈ c.functions) : RenderedIn f c.text
  | inFile {c : Class} {file : File} {key name : Text} (has : (key, f) ∈ c.functions)
      (holds : (name, c) ∈ file.classes) : RenderedIn f file.text

/-- The text of a class begins as that of every class. -/
theorem Class.head?_text (c : Class) : c.text.head? = some 'c' := by
  rw [Class.text_eq_ite]
  simp

/-- A function that ends in a line stands indented in the text of its class. -/
theorem Class.exists_indent {key : Text} (has : (key, f) ∈ c.functions)
    (ends : EndsInLine f.text) :
    ∃ before after, c.text = before ++ (indent f.text ++ after) ∧ AtLineEnd after := by
  have among : f.text ∈ c.functions.map (·.2.text) := List.mem_map.mpr ⟨_, has, rfl⟩
  have members : c.members = Text.joinWith "\n\n" (c.functions.map (·.2.text)) := rfl
  have nonempty : c.members ≠ [] := by
    obtain ⟨before, after, joined, -⟩ := Text.exists_joinWith_of_mem "\n\n" among
    intro none
    have empty := joined.symm.trans (members.symm.trans none)
    simp [ends.ne_nil] at empty
  have parts : indent c.members =
      Text.joinWith "\n\n" ((c.functions.map (·.2.text)).map indent) :=
    Text.indentBy_joinWith_emptyLine margin _
  obtain ⟨before, after, joined, ending⟩ :=
    Text.exists_joinWith_of_mem "\n\n" (List.mem_map_of_mem (f := indent) among)
  refine ⟨"class " ++ c.name ++ ":\n" ++ before, after, ?_, ending.imp_right ?_⟩
  · rw [Class.text_eq nonempty, parts, joined]
    simp only [List.append_assoc]
  · rintro ⟨more, rfl⟩
    rfl

/-- A class stands in the text of its file, without line feeds at its end. -/
theorem File.exists_class {name : Text} (holds : (name, c) ∈ file.classes) :
    ∃ before after, file.text = before ++ (Text.trim (· = '\n') c.text ++ '\n' :: after) := by
  have isMember : (⟨c.order, c.text⟩ : Member) ∈ file.members :=
    Member.mem_sort_of_mem (List.mem_append_right _ (List.mem_map.mpr ⟨_, holds, rfl⟩))
  have isBody : Text.trim (· = '\n') c.text ∈
      file.members.map fun m => Text.trim (· = '\n') m.text :=
    List.mem_map.mpr ⟨_, isMember, rfl⟩
  obtain ⟨before, after, joined, ending⟩ :=
    Text.exists_joinWith_of_mem "\n\n\n" isBody
  have line : ∃ more, after ++ "\n" = '\n' :: more := by
    rcases ending with rfl | ⟨more, rfl⟩
    · exact ⟨[], rfl⟩
    · exact ⟨_, rfl⟩
  have bodies : ∃ front, file.text = front ++ (Text.joinWith "\n\n\n"
      (file.members.map fun m => Text.trim (· = '\n') m.text) ++ "\n") := by
    have some := List.ne_nil_of_mem isMember
    by_cases top : file.top = []
    · exact ⟨[], by simp [File.text, top, some]⟩
    · refine ⟨file.top ++ "\n\n\n", ?_⟩
      rw [File.text_eq top some]
      simp only [List.append_assoc]
  obtain ⟨more, line⟩ := line
  obtain ⟨front, text⟩ := bodies
  refine ⟨front ++ before, more, ?_⟩
  rw [text, joined, ← line]
  simp only [List.append_assoc]

/-- A function that ends in a line stands indented in every text it is rendered in, and
nothing follows it in its last line. -/
theorem RenderedIn.exists_indent (h : RenderedIn f text) (ends : EndsInLine f.text) :
    ∃ before after, text = before ++ (indent f.text ++ after) ∧ AtLineEnd after := by
  cases h with
  | inClass has => exact Class.exists_indent has ends
  | @inFile c file key name has holds =>
      obtain ⟨before, after, inClass, ending⟩ := Class.exists_indent has ends
      obtain ⟨front, behind, inFile⟩ := File.exists_class holds
      rw [← List.append_assoc] at inClass
      have trimmed := Text.trim_lineFeed_append c.head?_text (by decide) inClass
        (ends.indent.append before)
      refine ⟨front ++ before, _, ?_, ending.trimmed behind⟩
      rw [inFile, trimmed]
      simp only [List.append_assoc]

end Code

namespace Client

open Code

variable {op : IndexedOperation} {encode : Bool} {text : Text}

/-- The method of an operation that becomes one is rendered in the module of the tag. -/
theorem renderedIn_standaloneModule (tag : Text) (className fileName : Option Text) (encode : Bool)
    {operations : List IndexedOperation} (named : ∀ op ∈ operations, Named op)
    (emits : op ∈ emitted operations) :
    RenderedIn (operationMethod op encode)
      (standaloneModule tag className fileName operations encode).text := by
  obtain ⟨⟨key, op⟩, among, rfl⟩ := List.mem_map.mp emits
  have has : (key, operationMethod op encode) ∈ (tagClass
      ((nonEmpty? className).getD (Naming.tagClassName tag)) operations encode).functions := by
    rw [tagClass_eq _ encode named]
    exact List.mem_cons_of_mem _ (List.mem_map.mpr ⟨_, among, rfl⟩)
  exact .inFile has (List.mem_singleton_self _)

/-- A record of a document is named as its method. -/
theorem named_recordOf (path method : Text) (raw : Fields) :
    Named (Document.recordOf path method raw) := rfl

/-- The method of a single operation is rendered in its module. -/
theorem renderedIn_single (op : IndexedOperation) (encode : Bool) (named : Named op) :
    RenderedIn (operationMethod op encode)
      (standaloneModule "default" none none [op] encode).text :=
  renderedIn_standaloneModule "default" none none encode (List.forall_mem_singleton.mpr named)
    (List.mem_singleton_self op)

/-! ## The lines of the code -/

/-- The margin of the body of a method in its class. -/
def bodyMargin : Text := margin ++ margin

/-- The code of a method in its class, by lines. -/
def codeLines (op : IndexedOperation) (encode : Bool) : List Text :=
  let outer := List.replicate 8 ' '
  let inner := List.replicate 12 ' '
  [outer ++ "return await self._http.request(",
   inner ++ "path=" ++ pathExpression op.path (some op.pathParams) encode ++ ",",
   inner ++ "method=" ++ Literal.encode (Text.upper op.method) ++ ","] ++
    given (! op.queryParams.isEmpty) (inner ++ "query=query,") ++
    given (! op.headerParams.isEmpty) (inner ++ "headers=headers,") ++
    given op.hasBody (inner ++ "body=body,") ++ [outer ++ ")"]

/-- The code of a request, by lines. -/
def requestBlock (lines : List Text) : List Text :=
  "return await self._http.request(".toList :: (lines.map (margin ++ ·) ++ [[')']])

/-- The code of a request is its lines. -/
theorem requestText_eq (lines : List Text) :
    requestText lines = Text.joinWith "\n" (requestBlock lines) := by
  have behind : ∀ first : Text,
      Text.joinWith "\n" (first :: (lines.map (margin ++ ·) ++ [[')']])) =
        first ++ '\n' :: ((lines.map fun line => margin ++ line ++ ['\n']).flatten ++ [')']) := by
    induction lines with
    | nil =>
        intro first
        simp [Text.joinWith]
    | cons line rest ih =>
        intro first
        rw [List.map_cons, List.cons_append, Text.joinWith, ih]
        simp
  unfold requestBlock requestText
  rw [behind]
  simp

/-- Each argument line holds a comma. -/
theorem comma_mem_requestLines {line : Text} (h : line ∈ requestLines op encode) : ',' ∈ line := by
  simp only [requestLines, List.mem_append, List.mem_cons, List.not_mem_nil, or_false,
    mem_given_iff] at h
  rcases h with (((rfl | rfl) | ⟨-, rfl⟩) | ⟨-, rfl⟩) | ⟨-, rfl⟩
  · simp
  · simp
  · decide
  · decide
  · decide

/-- The code of a method holds printable characters only, and no line of it is blank. -/
theorem requestBlock_line {line : Text} (h : line ∈ requestBlock (requestLines op encode)) :
    Text.Only Text.isPrintable line ∧ Text.hasInk line = true := by
  rw [requestBlock, List.mem_cons, List.mem_append, List.mem_singleton] at h
  rcases h with rfl | arguments | rfl
  · exact ⟨by decide, by decide⟩
  · obtain ⟨line, among, rfl⟩ := List.mem_map.mp arguments
    have blanks : Text.Only Text.isPrintable margin := by decide
    have comma := List.mem_append_right margin (comma_mem_requestLines among)
    exact ⟨blanks.append (only_requestLines among), List.any_eq_true.mpr ⟨',', comma, by decide⟩⟩
  · exact ⟨by decide, by decide⟩

/-- The lines of the code get the margin of the body. -/
theorem map_requestBlock (op : IndexedOperation) (encode : Bool) :
    (requestBlock (requestLines op encode)).map (bodyMargin ++ ·) = codeLines op encode := by
  unfold codeLines requestBlock requestLines
  cases op.queryParams.isEmpty <;> cases op.headerParams.isEmpty <;> cases op.hasBody <;> rfl

/-- The code in a class holds printable characters only. -/
theorem only_codeLines {line : Text} (h : line ∈ codeLines op encode) :
    Text.Only Text.isPrintable line := by
  rw [← map_requestBlock] at h
  obtain ⟨line, among, rfl⟩ := List.mem_map.mp h
  have blanks : Text.Only Text.isPrintable bodyMargin := by decide
  exact blanks.append (requestBlock_line among).1

/-- The code of a method, with its tabs replaced and indented as in a class. -/
theorem indentBy_requestText (op : IndexedOperation) (encode : Bool) :
    Text.indentBy bodyMargin (requestText (requestLines op encode)) =
      Text.joinWith "\n" (codeLines op encode) := by
  have inLine : ∀ line ∈ requestBlock (requestLines op encode), Text.InLine line :=
    fun line among => (requestBlock_line among).1.inLine
  rw [requestText_eq, Text.indentBy_joinWith bodyMargin inLine, ← map_requestBlock]
  congr 1
  apply List.map_congr_left
  intro line among
  rw [Text.indentLine, if_pos (requestBlock_line among).2]

/-! ## The parts of a method -/

/-- A method in its class: the signature, the documentation and the code. -/
theorem indent_operationMethod (op : IndexedOperation) (encode : Bool) :
    indent (operationMethod op encode).text =
      indent (operationMethod op encode).signature ++ '\n' :: (bodyMargin ++
        (Docstring.indentedLiteral bodyMargin (methodDescription op) ++
          '\n' :: Text.joinWith "\n" (codeLines op encode))) := by
  have body : Text.indentBy bodyMargin (Docstring.literal (methodDescription op) ++ ['\n'] ++
      requestText (requestLines op encode)) = bodyMargin ++
        (Docstring.indentedLiteral bodyMargin (methodDescription op) ++
          '\n' :: Text.joinWith "\n" (codeLines op encode)) := by
    rw [List.append_assoc, List.singleton_append, Text.indentBy_append_lineFeed,
      Docstring.indentBy_literal, indentBy_requestText, List.append_assoc]
  have twice : ∀ t, indent (indent t) = Text.indentBy bodyMargin t :=
    Text.indentBy_indentBy margin ⟨by decide, by decide⟩
  rw [text_operationMethod, List.append_assoc, List.singleton_append, indent,
    Text.indentBy_append_lineFeed, ← indent, ← indent, twice, body]

/-- The documentation of a method is read from the text it is rendered in, and the code
follows. -/
theorem read?_rendered (rendered : RenderedIn (operationMethod op encode) text) :
    ∃ before after rest,
      text = before ++ indent (operationMethod op encode).signature ++ "\n" ++ bodyMargin ++ after ∧
      Docstring.read? after = some
        ('\n' :: (Docstring.laidOut bodyMargin (Docstring.shown (methodDescription op)) ++
            '\n' :: bodyMargin),
          "\n" ++ Text.joinWith "\n" (codeLines op encode) ++ rest) ∧
      Text.AtLineEnd rest := by
  obtain ⟨before, rest, parts, ending⟩ :=
    rendered.exists_indent (endsInLine_operationMethod op encode)
  have isMargin : Text.IsMargin bodyMargin := ⟨by decide, by decide⟩
  refine ⟨before, _, rest, ?_, Docstring.read?_indentedLiteral isMargin _ _, ending⟩
  rw [parts, indent_operationMethod]
  simp

/-- The code of a method is rendered as it is.  In every class and file that the method is
rendered in, after its signature and its documentation stand the lines of its code, with
nothing behind them in the last one: the call with eight blanks; with twelve the path, whose
expression is that of the operation, the HTTP method, and the query, the headers and the
body where there are any; and the closing parenthesis with eight.  By every kind of line
end these are the lines, and all their characters are printable. -/
theorem code_lines_verbatim (rendered : RenderedIn (operationMethod op encode) text) :
    ∃ before after value rest,
      text = before ++ indent (operationMethod op encode).signature ++ "\n" ++
        List.replicate 8 ' ' ++ after ∧
      Docstring.read? after =
        some (value, "\n" ++ Text.joinWith "\n" (codeLines op encode) ++ rest) ∧
      Text.AtLineEnd rest ∧
      Text.lineBodies (Text.joinWith "\n" (codeLines op encode) ++ "\n") = codeLines op encode ∧
      ∀ line ∈ codeLines op encode, Text.Only Text.isPrintable line := by
  obtain ⟨before, after, rest, parts, read, ending⟩ := read?_rendered rendered
  have some : codeLines op encode ≠ [] := by
    rw [← map_requestBlock]
    exact List.cons_ne_nil _ _
  have inLine : ∀ line ∈ codeLines op encode, Text.InLine line :=
    fun line among => (only_codeLines among).inLine
  exact ⟨before, after, _, rest, parts, read, ending, Text.lineBodies_joinWith some inLine,
    fun line => only_codeLines⟩

/-- An operation whose path and path parameter hold tabs, quotes and characters that end
lines. -/
def hostileOperation : IndexedOperation :=
  Document.recordOf "/\t'\"\r\u2028\x7b\u0085\x7d\x00" "get"
    [("parameters".toList, .arr [.obj
      [("name".toList, .str "\u0085".toList), ("in".toList, .str "path".toList)]])]

/-- The code of its method. -/
def hostileCode : List Text :=
  ["        return await self._http.request(",
   "            path='/\\t\\'\"\\r\\u2028' + quote(str(path_params['\\x85']), safe='') + '\\x00',",
   "            method='GET',",
   "        )"]

/-- In the module of that operation its path is on one line. -/
theorem code_lines_verbatim_hostile :
    ∃ before after value rest,
      (standaloneModule "default" none none [hostileOperation] true).text = before ++ after ∧
      Docstring.read? after =
        some (value, "\n" ++ Text.joinWith "\n" hostileCode ++ rest) ∧
      Text.lineBodies (Text.joinWith "\n" hostileCode ++ "\n") = hostileCode := by
  have code : codeLines hostileOperation true = hostileCode := by decide +kernel
  obtain ⟨before, after, value, rest, text, read, -, lines, -⟩ :=
    code_lines_verbatim (renderedIn_single hostileOperation true (named_recordOf _ _ _))
  rw [code] at read lines
  exact ⟨_, after, value, rest, text, read, lines⟩

end Client

end ClientGen
