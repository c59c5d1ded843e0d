/-
# Generated files hold no control characters

Texts of the document come into a generated file in three ways: escaped in the comment of
a module, escaped in documentation, and as string literals.  Each way leaves no control
character but line feeds and tabs, whatever the text is; all else that a file holds is
fixed or a name.  So a file has no carriage return either: once written, it is read with
any kind of line end as it was.

The comment of a module is its whole first line, and an empty line follows it.
-/
import ClientGen.Proofs.Octets
import ClientGen.Proofs.Package
import ClientGen.Proofs.Walks

namespace ClientGen

namespace Text

variable {t : Text} {c : Char}

/-! ## Characters of source files -/

/-- A character that a source file may hold as such: a line feed, a tab, or one that is no
control character. -/
def isSourceChar (c : Char) : Bool :=
  c = '\n' || c = '\t' || 0x20 ≤ c.toNat && c.toNat != 0x7F

/-- The characters that are escaped are all the others. -/
theorem isSourceChar_eq (c : Char) : isSourceChar c = ! Docstring.isControl c := by
  rw [Bool.eq_iff_iff]
  by_cases feed : c = '\n'
  · simp [isSourceChar, Docstring.isControl, feed]
  by_cases tab : c = '\t'
  · simp [isSourceChar, Docstring.isControl, tab]
  simp [isSourceChar, Docstring.isControl, feed, tab]

/-- A printable character is no control character. -/
theorem isSourceChar_of_isPrintable (h : isPrintable c = true) : isSourceChar c = true := by
  have range : 0x20 ≤ c.toNat ∧ c.toNat ≠ 0x7F := by
    rw [isPrintable] at h
    split at h
    · rename_i low
      exact ⟨of_decide_eq_true h, by omega⟩
    · rename_i high
      refine ⟨by omega, fun delete => ?_⟩
      rw [delete] at h
      exact absurd h (by decide)
  simp [isSourceChar, range]

/-- What holds printable characters only is source text. -/
theorem Only.source (h : Only isPrintable t) : Only isSourceChar t :=
  h.imp fun _ => isSourceChar_of_isPrintable

/-- A word is source text. -/
theorem only_source_of_word (h : Only Identifier.isWordChar t) : Only isSourceChar t :=
  h.imp fun _ word => isSourceChar_of_isPrintable (Literal.isPrintable_of_isWordChar word)

/-- Source text that is written to a file is read as it was, whatever ends lines are read
as line feeds. -/
theorem read_of_write_source (h : Only isSourceChar t) {tree written : FileTree} {path : Text}
    (writes : tree.write path (Utf8.encode t) = .ok written) :
    ∃ octets read, written.read path = .ok octets ∧ Utf8.decode octets = .ok read ∧
      unifyNewlines read = t := by
  have noReturn : '\r' ∉ t := h.not_mem (by decide)
  exact ⟨_, t, FileTree.read_of_write writes, Utf8.decode_encode t, unifyNewlines_eq_self noReturn⟩

end Text

open Text (Only isSourceChar)

namespace Docstring

/-! ## Escaped texts -/

/-- What is left of a text once its control characters are escaped is source text. -/
theorem only_escapeControls (t : Text) : Only isSourceChar (escapeControls t) := by
  intro c among
  obtain ⟨d, -, inEscape⟩ := List.mem_flatMap.mp among
  rw [escapeControl] at inEscape
  split at inEscape
  · rcases List.mem_append.mp inEscape with inFront | inDigits
    · have front : Only isSourceChar "\\x" := by decide
      exact front c inFront
    · exact Text.of_mem_hex isSourceChar (by decide) inDigits
  · rename_i passes
    rw [List.mem_singleton.mp inEscape, Text.isSourceChar_eq]
    simpa using passes

/-- Documentation is source text. -/
theorem only_literal (t : Text) : Only isSourceChar (literal t) := by
  have opening : Only isSourceChar "\"\"\"\n" := by decide
  have closing : Only isSourceChar "\n\"\"\"" := by decide
  have inside : Only isSourceChar (content t) :=
    fun c among => only_escapeControls _ c (Text.mem_of_mem_trim among)
  exact (opening.append inside).append closing

end Docstring

namespace Client

open Code

/-! ## Modules -/

/-- The code of a request is source text. -/
theorem only_requestText {lines : List Text} (h : ∀ line ∈ lines, Only isSourceChar line) :
    Only isSourceChar (requestText lines) := by
  have opening : Only isSourceChar "return await self._http.request(\n" := by decide
  have closing : Only isSourceChar ")" := by decide
  have blanks : Only isSourceChar margin := by decide
  have feed : Only isSourceChar ['\n'] := by decide
  have inside : Only isSourceChar (lines.map fun line => margin ++ line ++ ['\n']).flatten := by
    intro c among
    obtain ⟨piece, inPieces, inPiece⟩ := List.mem_flatten.mp among
    obtain ⟨line, inLines, rfl⟩ := List.mem_map.mp inPieces
    exact ((blanks.append (h line inLines)).append feed) c inPiece
  exact (opening.append inside).append closing

/-- A method is source text. -/
theorem only_operationMethod (encode : Bool) {op : IndexedOperation} (named : Named op) :
    Only isSourceChar (operationMethod op encode).text := by
  have feed : Only isSourceChar "\n" := by decide
  have blanks : Only isSourceChar margin := by decide
  have signature : Only isSourceChar (operationMethod op encode).signature := by
    have word : Only Identifier.isWordChar (shape op).name := named.only
    apply (only_signature_declaration word).imp
    intro c
    apply of_isSignatureChar isSourceChar _ (by decide)
    intro c word
    exact Text.isSourceChar_of_isPrintable (Literal.isPrintable_of_isWordChar word)
  have lines : ∀ line ∈ requestLines op encode, Only isSourceChar line :=
    fun line among => (only_requestLines among).source
  have body := ((Docstring.only_literal (methodDescription op)).append feed).append
    (only_requestText lines)
  rw [text_operationMethod]
  exact (signature.append feed).append (only_indent blanks body)

/-- The class of a tag is source text. -/
theorem only_tagClass (encode : Bool) {className : Text} {operations : List IndexedOperation}
    (inName : Only isSourceChar className) (named : ∀ op ∈ operations, Named op) :
    Only isSourceChar (classText className (methodsText operations encode)) := by
  have opening : Only isSourceChar "class " := by decide
  have colon : Only isSourceChar ":\n" := by decide
  have blanks : Only isSourceChar margin := by decide
  have first : Only isSourceChar constructor.text := by decide
  have methods : Only isSourceChar (methodsText operations encode) := by
    apply Text.Only.joinWith (by decide)
    intro text among
    rcases List.mem_cons.mp among with rfl | among
    · exact first
    · obtain ⟨op, emitted, rfl⟩ := List.mem_map.mp among
      exact only_operationMethod encode (named op (mem_of_mem_emitted emitted))
  exact ((opening.append inName).append colon).append (only_indent blanks methods)

/-- The line of exports is source text. -/
theorem only_exportLine (className : Text) : Only isSourceChar (exportLine className) := by
  have opening : Only isSourceChar "__all__ = [" := by decide
  have closing : Only isSourceChar "]" := by decide
  have literal := (Literal.only_encode className).source
  exact (opening.append literal).append closing

/-- The comment of a module is source text. -/
theorem only_moduleHeader (tag : Text) : Only isSourceChar (moduleHeader tag) := by
  have opening : Only isSourceChar "# Auto-generated API for tag: " := by decide
  exact opening.append (Docstring.only_escapeControls _)

/-- The module of a tag is source text. -/
theorem only_tagModule (tag fileName : Text) (encode : Bool) {className : Text}
    {operations : List IndexedOperation} (inName : Only isSourceChar className)
    (named : ∀ op ∈ operations, Named op) :
    Only isSourceChar (tagModule tag className fileName operations encode).text := by
  have imports : ∀ line ∈ moduleImports encode, Only isSourceChar line := by
    cases encode <;> decide
  apply Code.File.only_text (by decide)
  · exact List.forall_mem_singleton.mpr (only_moduleHeader tag)
  · exact imports
  · refine List.forall_mem_singleton.mpr ?_
    rw [text_tagClass className encode named]
    exact only_tagClass encode inName named
  · refine List.forall_mem_singleton.mpr ?_
    exact Code.only_expandTabs (by decide) (only_exportLine className)

/-- The comment of a module is one line. -/
theorem inLine_moduleHeader (tag : Text) : Text.InLine (moduleHeader tag) :=
  Text.inLine_cons_iff.mpr ⟨by decide, inLine_moduleComment tag⟩

/-- The comment of a module is its first line, and the second is empty. -/
theorem first_lines_tagModule (tag className fileName : Text) (operations : List IndexedOperation)
    (encode : Bool) :
    (Text.splitAt '\n' (tagModule tag className fileName operations encode).text).take 2 =
      [moduleHeader tag, []] := by
  obtain ⟨rest, text⟩ := Code.File.text_eq_header
    (f := tagModule tag className fileName operations encode) rfl (List.cons_ne_nil _ _)
    (Or.inl (List.cons_ne_nil _ _))
  have inLine := inLine_moduleHeader tag
  have feeds : moduleHeader tag ++ "\n\n" ++ rest = moduleHeader tag ++ '\n' :: '\n' :: rest := by
    simp
  rw [text, feeds, Text.splitAt_append_sep, Text.splitAt_eq_singleton inLine.lineFeed_not_mem,
    Text.splitAt_cons_sep]
  rfl

/-! ## The other files -/

/-- The package file of a plan with names as they should be is source text. -/
theorem only_packageFile {plan : Plan} (sound : plan.Sound) :
    Only isSourceChar (packageFile plan).text := by
  have header : Only isSourceChar packageHeader := by decide
  apply Code.File.only_text (by decide)
  · exact List.forall_mem_singleton.mpr header
  · exact fun line among => (only_packageImports sound line among).source
  · exact List.forall_mem_nil _
  · refine List.forall_mem_singleton.mpr ?_
    exact Code.only_expandTabs (by decide) (only_packageExports plan).source

/-- A first line of which each character is listed, before further lines. -/
theorem only_lines_cons {good : Char → Bool} {line : List Char} {lines : List String}
    (first : line.all good = true) (rest : ∀ t ∈ lines.map String.toList, Only good t) :
    ∀ t ∈ (String.ofList line :: lines).map String.toList, Only good t := by
  rw [List.map_cons, String.toList_ofList]
  exact List.forall_mem_cons.mpr ⟨List.all_eq_true.mp first, rest⟩

set_option maxRecDepth 4096 in
/-- The lines of the transport are source text. -/
theorem only_transportLines : ∀ line ∈ Transport.sourceLines, Only isSourceChar line := by
  unfold Transport.sourceLines
  -- Deciding all of it at once would decode each line again for each of its characters.
  simp only [String.reduceAppend]
  repeat refine only_lines_cons (by decide +kernel) ?_
  exact List.forall_mem_nil _

/-- The transport is source text. -/
theorem only_transport : Only isSourceChar Transport.file.text := by
  have header : Only isSourceChar Transport.header := by decide
  apply Code.File.only_text (by decide)
  · exact List.forall_mem_singleton.mpr header
  · exact List.forall_mem_nil _
  · exact List.forall_mem_nil _
  · refine List.forall_mem_singleton.mpr (Code.only_expandTabs (by decide) ?_)
    exact Text.Only.joinWith (by decide) only_transportLines

end Client

namespace Generator

/-! ## A whole generation -/

/-- The files of a generation hold no control characters but line feeds and tabs, and a
file that is written is read as it was, whatever ends lines are read as line feeds.  The
comment of a module is one line by any rule, and it is the whole first line of the file;
the second line is empty. -/
theorem files_hold_no_control_characters (document : Fields) (encode : Bool) :
    (∀ file ∈ (generateClient document encode).files,
      (∀ c ∈ file.text, c = '\n' ∨ c = '\t' ∨ 0x20 ≤ c.toNat ∧ c.toNat ≠ 0x7F) ∧
        ∀ (tree written : FileTree) (path : Text),
          tree.write path (Utf8.encode file.text) = .ok written →
          ∃ octets read, written.read path = .ok octets ∧ Utf8.decode octets = .ok read ∧
            Text.unifyNewlines read = file.text) ∧
      ∀ pair ∈ entryGroups document encode,
        moduleOf encode pair ∈ (generateClient document encode).files ∧
          (moduleOf encode pair).header = [Client.moduleHeader pair.2.1] ∧
          Text.InLine (Client.moduleHeader pair.2.1) ∧
          (Text.splitAt '\n' (moduleOf encode pair).text).take 2 =
            [Client.moduleHeader pair.2.1, []] := by
  have source : ∀ file ∈ (generateClient document encode).files,
      Only isSourceChar file.text := by
    intro file among
    rw [files_generate, List.mem_append, List.mem_cons, List.mem_singleton] at among
    rcases among with (rfl | inModules) | rfl
    · exact Client.only_transport
    · obtain ⟨pair, inPairs, rfl⟩ := List.mem_map.mp inModules
      have isName := (spelled_of_mem_entryGroups inPairs).2.only
      exact Client.only_tagModule _ _ encode (Text.only_source_of_word isName)
        (named_of_mem_entryGroups inPairs)
    · exact Client.only_packageFile (sound_generate document encode)
  refine ⟨fun file among => ⟨?_, ?_⟩, fun pair inPairs => ⟨?_, rfl, ?_, ?_⟩⟩
  · intro c inText
    simpa [Text.isSourceChar, or_assoc] using source file among c inText
  · intro tree written path writes
    exact Text.read_of_write_source (source file among) writes
  · exact moduleOf_mem_files inPairs
  · exact Client.inLine_moduleHeader pair.2.1
  · exact Client.first_lines_tagModule _ _ _ _ encode

/-- A document whose tag, path, placeholder and summary hold control characters. -/
def controlDocument : Fields :=
  [("paths".toList, .obj [("/a\x07/\x7bk\x1b\x7d\r".toList, .obj [("get".toList, .obj
    [("tags".toList, .arr [.str "t\r\x00\u2028u".toList]),
      ("summary".toList, .str "s\x7f\rs".toList),
      ("parameters".toList, .arr [.obj
        [("name".toList, .str "k\x1b".toList), ("in".toList, .str "path".toList)]])])])])]

/-- On the document: the module of the tag has no carriage return, and its first line shows
the tag. -/
theorem files_hold_no_control_characters_hostile :
    ∃ file ∈ (generateClient controlDocument true).files, '\r' ∉ file.text ∧
      (Text.splitAt '\n' file.text).take 2 =
        ["# Auto-generated API for tag: t \\x00 u".toList, []] := by
  have tagged : ∃ pair ∈ entryGroups controlDocument true,
      Client.moduleHeader pair.2.1 = "# Auto-generated API for tag: t \\x00 u" := by decide
  obtain ⟨pair, inPairs, header⟩ := tagged
  obtain ⟨files, modules⟩ := files_hold_no_control_characters controlDocument true
  obtain ⟨inFiles, -, -, lines⟩ := modules pair inPairs
  refine ⟨_, inFiles, fun inText => ?_, header ▸ lines⟩
  exact absurd ((files _ inFiles).1 _ inText) (by decide)

end Generator

end ClientGen
