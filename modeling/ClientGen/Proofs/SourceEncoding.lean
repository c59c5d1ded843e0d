/-
# Which files declare a source encoding

A comment in the first two lines of a source file declares the encoding that the file is
read in, if it names one.  Every file of a generation begins with one comment line and an
empty line.  The comments of the transport and of the package file are constants that
name nothing.  The comment of a tag module shows the tag, and the words in front of it
have no letter that a declaration could begin with: so the module declares an encoding
exactly if the tag as shown names one.

Tags are free, and some do.
-/
import ClientGen.Proofs.Generator

namespace ClientGen

namespace Text

variable {t : Text}

/-! ## The lines of a source file -/

/-- The lines of a source file: a line feed ends a line, and so does a carriage return
with or without one. -/
def sourceLines (t : Text) : List Text := splitAt '\n' (unifyNewlines t)

/-- A line without line ends and an empty line are the first two lines of a text. -/
theorem take_two_sourceLines (h : InLine t) (u : Text) :
    (sourceLines (t ++ "\n\n" ++ u)).take 2 = [t, []] := by
  have noReturn : '\r' ∉ t := by
    intro among
    exact absurd (h _ among) (by decide)
  have noFeed := splitAt_eq_singleton h.lineFeed_not_mem
  have feeds : unifyNewlines ("\n\n" ++ u) = '\n' :: '\n' :: unifyNewlines u := rfl
  rw [sourceLines, List.append_assoc, unifyNewlines_append noReturn, feeds, splitAt_append_sep,
    splitAt_cons_sep, noFeed]
  rfl

end Text

namespace SourceEncoding

variable {t line : Text}

/-! ## Declarations -/

/-- The characters of the names of encodings. -/
def isNameChar (c : Char) : Bool := Text.isAsciiWord c || c = '-' || c = '_' || c = '.'

/-- The characters that may stand between the sign and the name. -/
def isGap (c : Char) : Bool := c = ' ' || c = '\t'

/-- The text names an encoding: somewhere in it stand the word `coding`, a colon or an
equals sign, perhaps a gap, and a character of names. -/
def Names (t : Text) : Prop :=
  ∃ (before : Text) (sign : Char) (gap : Text) (c : Char) (after : Text),
    t = before ++ "coding" ++ sign :: gap ++ c :: after ∧ (sign = ':' ∨ sign = '=') ∧
      Text.Only isGap gap ∧ isNameChar c = true

/-- The line declares a source encoding: it is a comment, perhaps behind a margin, that
names one. -/
def Declares (line : Text) : Prop :=
  ∃ margin comment, line = margin ++ '#' :: comment ∧
    Text.Only (fun c => isGap c || c = '\x0c') margin ∧ Names comment

/-- One of the first two lines of the source text declares an encoding. -/
def DeclaredIn (t : Text) : Prop := ∃ line ∈ (Text.sourceLines t).take 2, Declares line

/-- What a text without the letter that `coding` begins with has in front does not
matter. -/
theorem names_append_iff {front : Text} (h : 'c' ∉ front) (t : Text) :
    Names (front ++ t) ↔ Names t := by
  constructor
  · rintro ⟨before, sign, gap, c, after, text, isSign, isGap, isName⟩
    have cut : front ++ t = before ++ ('c' :: ("oding" ++ sign :: gap ++ c :: after)) := by
      rw [text]
      simp
    rcases List.append_eq_append_iff.mp cut with ⟨between, back, rest⟩ | ⟨between, back, rest⟩
    · exact ⟨between, sign, gap, c, after, by simp [rest], isSign, isGap, isName⟩
    · cases between with
      | nil =>
          exact ⟨[], sign, gap, c, after, by simpa using rest.symm, isSign, isGap, isName⟩
      | cons first others =>
          exfalso
          apply h
          rw [back, (List.cons.inj rest).1]
          exact List.mem_append_right _ List.mem_cons_self
  · rintro ⟨before, sign, gap, c, after, rfl, kinds⟩
    exact ⟨front ++ before, sign, gap, c, after, by simp, kinds⟩

/-- A text without the letter that `coding` begins with names no encoding. -/
theorem not_names (h : 'c' ∉ t) : ¬ Names t := by
  rintro ⟨before, sign, gap, c, after, rfl, -⟩
  exact h (by simp)

/-- A line that begins with a number sign declares what its comment names. -/
theorem declares_comment_iff (comment : Text) : Declares ('#' :: comment) ↔ Names comment := by
  constructor
  · rintro ⟨margin, behind, line, blank, names⟩
    cases margin with
    | nil => exact (List.cons.inj line).2 ▸ names
    | cons c rest =>
        have first : '#' = c := (List.cons.inj line).1
        exact absurd (blank c List.mem_cons_self) (by simp [← first, isGap])
  · intro names
    exact ⟨[], comment, rfl, List.forall_mem_nil _, names⟩

/-- A line without the letter that `coding` begins with declares nothing. -/
theorem not_declares (h : 'c' ∉ line) : ¬ Declares line := by
  rintro ⟨margin, comment, rfl, -, names⟩
  have noLetter : 'c' ∉ comment := by
    intro among
    exact h (List.mem_append_right _ (List.mem_cons_of_mem _ among))
  exact not_names noLetter names

/-- A text that begins with a comment and an empty line declares what the comment
names. -/
theorem declaredIn_iff {comment : Text} (h : Text.InLine comment) (rest : Text) :
    DeclaredIn ('#' :: comment ++ "\n\n" ++ rest) ↔ Names comment := by
  have inLine : Text.InLine ('#' :: comment) := Text.inLine_cons_iff.mpr ⟨by decide, h⟩
  rw [DeclaredIn, Text.take_two_sourceLines inLine]
  simp [declares_comment_iff, not_declares]

/-! ## The files of a generation -/

/-- The module of a tag declares an encoding exactly if the tag as shown names one. -/
theorem declaredIn_tagModule_iff (tag className fileName : Text)
    (operations : List IndexedOperation) (encode : Bool) :
    DeclaredIn (Client.tagModule tag className fileName operations encode).text ↔
      Names (Client.shownTag tag) := by
  obtain ⟨rest, text⟩ := Code.File.text_eq_header
    (f := Client.tagModule tag className fileName operations encode) rfl (List.cons_ne_nil _ _)
    (Or.inl (List.cons_ne_nil _ _))
  rw [text, Client.moduleHeader_eq]
  exact (declaredIn_iff (Client.inLine_moduleComment tag) rest).trans
    (names_append_iff (by decide) (Client.shownTag tag))

/-- A file with a header of one line that is without the letter declares nothing. -/
theorem not_declaredIn_of_header {f : Code.File} (header : f.header = [line])
    (nonempty : line ≠ []) (inLine : Text.InLine line) (noLetter : 'c' ∉ line)
    (more : f.imports ≠ [] ∨ f.members ≠ []) : ¬ DeclaredIn f.text := by
  obtain ⟨rest, text⟩ := Code.File.text_eq_header header nonempty more
  rw [text, DeclaredIn, Text.take_two_sourceLines inLine]
  simp [not_declares, noLetter]

/-- The transport file declares no encoding. -/
theorem not_declaredIn_transport : ¬ DeclaredIn Transport.file.text :=
  not_declaredIn_of_header rfl (List.cons_ne_nil _ _) (by decide) (by decide)
    (Or.inr (List.cons_ne_nil _ _))

/-- The package file declares no encoding. -/
theorem not_declaredIn_packageFile (plan : Plan) : ¬ DeclaredIn (Client.packageFile plan).text :=
  not_declaredIn_of_header rfl (List.cons_ne_nil _ _) (by decide) (by decide)
    (Or.inr (List.cons_ne_nil _ _))

/-- A file of a generation declares a source encoding exactly if it is the module of a
tag that, as its comment shows it, names one. -/
theorem declaredIn_iff_tag_names (document : Fields) (encode : Bool) :
    ∀ file ∈ (generateClient document encode).files, DeclaredIn file.text ↔
      ∃ pair ∈ Generator.entryGroups document encode,
        file = Generator.moduleOf encode pair ∧ Names (Client.shownTag pair.2.1) := by
  intro file among
  have ofModule : ∀ pair : PlanEntry × Text × List IndexedOperation,
      DeclaredIn (Generator.moduleOf encode pair).text ↔ Names (Client.shownTag pair.2.1) :=
    fun pair => declaredIn_tagModule_iff _ _ _ _ _
  constructor
  · intro declared
    rw [Generator.files_generate, List.mem_append, List.mem_cons, List.mem_singleton] at among
    rcases among with (rfl | inModules) | rfl
    · exact absurd declared not_declaredIn_transport
    · obtain ⟨pair, inPairs, rfl⟩ := List.mem_map.mp inModules
      exact ⟨pair, inPairs, rfl, (ofModule pair).mp declared⟩
    · exact absurd declared (not_declaredIn_packageFile _)
  · rintro ⟨pair, -, rfl, names⟩
    exact (ofModule pair).mpr names

/-- A document with one operation under a tag that names an encoding. -/
def latinDocument : Fields :=
  [("paths".toList, .obj [("/a".toList, .obj [("get".toList, .obj
    [("tags".toList, .arr [.str "coding: latin-1".toList])])])])]

/-- The module of the document's tag is a file of its generation. -/
theorem exists_latin_module :
    ∃ pair ∈ Generator.entryGroups latinDocument false,
      Generator.moduleOf false pair ∈ (generateClient latinDocument false).files ∧
        Names (Client.shownTag pair.2.1) := by
  have tagged : ∃ pair ∈ Generator.entryGroups latinDocument false,
      pair.2.1 = "coding: latin-1" := by decide
  obtain ⟨pair, inPairs, tag⟩ := tagged
  refine ⟨pair, inPairs, Generator.moduleOf_mem_files inPairs, ?_⟩
  rw [tag]
  exact ⟨[], ':', " ", 'l', "atin-1", by decide, Or.inl rfl, by decide, by decide⟩

/-- On the document: some file declares an encoding, and only the module of the tag does. -/
theorem declaredIn_iff_tag_names_latin :
    (∃ file ∈ (generateClient latinDocument false).files, DeclaredIn file.text) ∧
      ∀ file ∈ (generateClient latinDocument false).files, DeclaredIn file.text →
        file.name = "coding_latin_1_api.py" := by
  have fileNames : ∀ pair ∈ Generator.entryGroups latinDocument false,
      pair.1.fileName = "coding_latin_1_api.py" := by decide
  have declared := declaredIn_iff_tag_names latinDocument false
  obtain ⟨pair, inPairs, inFiles, names⟩ := exists_latin_module
  refine ⟨⟨_, inFiles, (declared _ inFiles).mpr ⟨pair, inPairs, rfl, names⟩⟩, ?_⟩
  intro file among declares
  obtain ⟨pair, inPairs, rfl, -⟩ := (declared file among).mp declares
  exact fileNames pair inPairs

/-- It is not so that no file of a generation declares a source encoding: the module of
the tag does. -/
theorem some_file_declares_encoding :
    ¬ ∀ (document : Fields) (encode : Bool), ∀ file ∈ (generateClient document encode).files,
      ∀ line ∈ (Text.sourceLines file.text).take 2, ¬ Declares line := by
  intro none
  obtain ⟨pair, -, inFiles, names⟩ := exists_latin_module
  obtain ⟨line, inLines, declares⟩ := (declaredIn_tagModule_iff _ _ _ _ _).mpr names
  exact none latinDocument false _ inFiles line inLines declares

end SourceEncoding

end ClientGen
