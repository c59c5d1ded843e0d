/-
# The text of code

What the text of a block, of a signature and of a file is made of.  Replacing tabs
changes nothing where there is no tab; a signature holds what its parts hold and
some fixed characters; and a file with a header, imports and members is these
parts in this order, with empty lines between them.
-/
import ClientGen.Code.Basic
import ClientGen.Proofs.Lines

namespace ClientGen.Code

variable {good : Char → Bool}

/-! ## Tabs and indentation -/

/-- A text with a level of indentation for each tab. -/
def expandTabs (t : Text) : Text := t.flatMap fun c => if c = '\t' then margin else [c]

theorem Block.text_eq (b : Block) : b.text = expandTabs b.code := rfl

theorem expandTabs_append (t u : Text) : expandTabs (t ++ u) = expandTabs t ++ expandTabs u :=
  List.flatMap_append

/-- A text without tabs stays as it is. -/
theorem expandTabs_eq_self {t : Text} (h : '\t' ∉ t) : expandTabs t = t := by
  induction t with
  | nil => rfl
  | cons c rest ih =>
      obtain ⟨first, others⟩ := not_or.mp (List.mem_cons.not.mp h)
      rw [expandTabs, List.flatMap_cons, if_neg (Ne.symm first), ← expandTabs, ih others]
      rfl

/-- Replacing tabs brings in blanks only. -/
theorem only_expandTabs {t : Text} (blank : Text.Only good margin) (h : Text.Only good t) :
    Text.Only good (expandTabs t) := by
  intro c among
  obtain ⟨d, inText, inPiece⟩ := List.mem_flatMap.mp among
  split at inPiece
  · exact blank c inPiece
  · rw [List.mem_singleton.mp inPiece]
    exact h d inText

/-- Indenting brings in blanks only. -/
theorem only_indent {t : Text} (blank : Text.Only good margin) (h : Text.Only good t) :
    Text.Only good (indent t) := by
  intro c among
  rcases Text.mem_indentBy among with inMargin | inText
  · exact blank c inMargin
  · exact h c inText

theorem getLast?_indent (t : Text) : (indent t).getLast? = t.getLast? :=
  Text.getLast?_indentBy margin t

/-! ## Signatures -/

namespace Function

/-- The parameters of the signature are the parameters. -/
theorem mem_signatureParameters {f : Function} {p : Parameter} (h : p ∈ f.signatureParameters) :
    p ∈ f.parameters := by
  rcases List.mem_append.mp h with required | optional
  · exact List.mem_of_mem_filter required
  · exact List.mem_of_mem_filter optional

/-- A signature holds characters of one kind if the name, the parameters and the
response do, and the characters that every signature is made with are of the kind. -/
theorem only_signature {f : Function} (fixed : Text.Only good "async def (, \n) -> :")
    (inName : Text.Only good f.name) (inParameters : ∀ p ∈ f.parameters, Text.Only good p.text)
    (inResponse : ∀ type, f.response = some type → Text.Only good type) :
    Text.Only good f.signature := by
  have part : ∀ t : Text, t ⊆ "async def (, \n) -> :".toList → Text.Only good t :=
    fun t inside c hc => fixed c (inside hc)
  have opening : Text.Only good f.opening := by
    rw [opening]
    simp only [Text.only_append_iff]
    refine ⟨⟨?_, inName⟩, part _ (by decide)⟩
    split <;> exact part _ (by decide)
  have closing : Text.Only good f.closing := by
    rw [closing]
    split
    · exact part _ (by decide)
    · rename_i type given
      have isResponse := (Option.filter_eq_some_iff.mp given).1
      simp only [Text.only_append_iff]
      exact ⟨⟨part _ (by decide), inResponse type isResponse⟩, part _ (by decide)⟩
  have parameters : ∀ p ∈ f.signatureParameters, Text.Only good p.text :=
    fun p hp => inParameters p (mem_signatureParameters hp)
  rw [signature]
  split
  · rw [oneLine]
    simp only [Text.only_append_iff]
    refine ⟨⟨opening, Text.Only.joinWith (part _ (by decide)) ?_⟩, closing⟩
    intro t ht
    obtain ⟨p, hp, rfl⟩ := List.mem_map.mp ht
    exact parameters p hp
  · rw [perLine]
    simp only [Text.only_append_iff]
    refine ⟨⟨⟨opening, part _ (by decide)⟩, ?_⟩, closing⟩
    intro c hc
    obtain ⟨line, hline, inLine⟩ := List.mem_flatten.mp hc
    obtain ⟨p, hp, rfl⟩ := List.mem_map.mp hline
    rcases Text.mem_indentBy inLine with inMargin | inside
    · exact part margin (by decide) c inMargin
    · rcases List.mem_append.mp inside with inText | inEnd
      · exact parameters p hp c inText
      · exact part ",\n" (by decide) c inEnd

end Function

/-! ## Classes -/

/-- The texts of the functions of a class, with an empty line between each two. -/
def Class.members (c : Class) : Text :=
  Text.joinWith "\n\n" (c.functions.map fun (_, f) => f.text)

theorem Class.text_eq_ite (c : Class) :
    c.text = "class " ++ c.name ++ ":\n" ++
      indent (if c.members.isEmpty then idleCode else c.members) := rfl

/-- The text of a class that has some function. -/
theorem Class.text_eq {c : Class} (some : c.members ≠ []) :
    c.text = "class " ++ c.name ++ ":\n" ++ indent c.members := by
  rw [Class.text_eq_ite]
  cases members : c.members with
  | nil => exact absurd members some
  | cons first rest => rfl

/-! ## Files -/

namespace Member

variable {m n : Member} {members : List Member}

theorem mem_of_mem_insert (h : n ∈ insert m members) : n = m ∨ n ∈ members := by
  induction members with
  | nil => exact Or.inl (List.mem_singleton.mp h)
  | cons first rest ih =>
      rw [insert] at h
      split at h
      · exact List.mem_cons.mp h
      · rcases List.mem_cons.mp h with rfl | inRest
        · exact Or.inr List.mem_cons_self
        · exact (ih inRest).imp_right (List.mem_cons_of_mem _)

/-- Sorting brings in no member. -/
theorem mem_of_mem_sort (h : m ∈ sort members) : m ∈ members := by
  induction members with
  | nil => exact h
  | cons first rest ih =>
      rcases mem_of_mem_insert h with rfl | inRest
      · exact List.mem_cons_self
      · exact List.mem_cons_of_mem _ (ih inRest)

theorem mem_insert (m : Member) (members : List Member) : m ∈ insert m members := by
  induction members with
  | nil => exact List.mem_cons_self
  | cons first rest ih =>
      rw [insert]
      split
      · exact List.mem_cons_self
      · exact List.mem_cons_of_mem _ ih

theorem mem_insert_of_mem (h : n ∈ members) : n ∈ insert m members := by
  induction members with
  | nil => cases h
  | cons first rest ih =>
      rw [insert]
      split
      · exact List.mem_cons_of_mem _ h
      · rcases List.mem_cons.mp h with rfl | later
        · exact List.mem_cons_self
        · exact List.mem_cons_of_mem _ (ih later)

/-- Sorting loses no member. -/
theorem mem_sort_of_mem (h : m ∈ members) : m ∈ sort members := by
  induction members with
  | nil => cases h
  | cons first rest ih =>
      rcases List.mem_cons.mp h with rfl | later
      · exact mem_insert m _
      · exact mem_insert_of_mem (ih later)

end Member

namespace File

/-- A file holds characters of one kind if its parts do and line feeds are of the kind. -/
theorem only_text {f : File} (feed : good '\n' = true)
    (header : ∀ line ∈ f.header, Text.Only good line)
    (imports : ∀ line ∈ f.imports, Text.Only good line)
    (classes : ∀ entry ∈ f.classes, Text.Only good entry.2.text)
    (blocks : ∀ block ∈ f.blocks, Text.Only good block.text) : Text.Only good f.text := by
  have feeds : ∀ t : Text, t ⊆ ['\n'] → Text.Only good t := by
    intro t inside c among
    rw [List.mem_singleton.mp (inside among)]
    exact feed
  have top : Text.Only good f.top := by
    apply Text.Only.joinWith (feeds _ (by decide))
    intro piece among
    obtain ⟨lines, inParts, rfl⟩ := List.mem_map.mp among
    have part : lines = f.header ∨ lines = f.imports := by
      simpa using List.mem_of_mem_filter inParts
    apply Text.Only.joinWith (feeds _ (by decide))
    rcases part with rfl | rfl
    · exact header
    · exact imports
  have bodies : Text.Only good
      (Text.joinWith "\n\n\n" (f.members.map fun m => Text.trim (· = '\n') m.text)) := by
    apply Text.Only.joinWith (feeds _ (by decide))
    intro body among
    obtain ⟨m, inMembers, rfl⟩ := List.mem_map.mp among
    have inParts := Member.mem_of_mem_sort inMembers
    have inText : Text.Only good m.text := by
      rcases List.mem_append.mp inParts with ofBlock | ofClass
      · obtain ⟨block, inBlocks, rfl⟩ := List.mem_map.mp ofBlock
        exact blocks block inBlocks
      · obtain ⟨entry, inClasses, rfl⟩ := List.mem_map.mp ofClass
        exact classes entry inClasses
    exact fun c inBody => inText c (Text.mem_of_mem_trim inBody)
  rw [text]
  refine Text.Only.append ?_ (feeds _ (by decide))
  split
  · exact top
  · split
    · exact bodies
    · exact (top.append (feeds _ (by decide))).append bodies

/-- A file with a header and imports begins with them, an empty line between. -/
theorem top_eq {f : File} (header : f.header ≠ []) (imports : f.imports ≠ []) :
    f.top = Text.joinWith "\n" f.header ++ "\n\n" ++ Text.joinWith "\n" f.imports := by
  simp [top, header, imports, Text.joinWith]

/-- A file with a top and members is the top, then the members without line feeds at
their ends, two empty lines before each. -/
theorem text_eq {f : File} (hasTop : f.top ≠ []) (hasMembers : f.members ≠ []) :
    f.text = f.top ++ "\n\n\n" ++
      Text.joinWith "\n\n\n" (f.members.map fun m => Text.trim (· = '\n') m.text) ++ "\n" := by
  simp [text, hasTop, hasMembers]

/-- A file with a top begins with it. -/
theorem top_prefix_text {f : File} (hasTop : f.top ≠ []) : f.top <+: f.text := by
  by_cases members : f.members = []
  · exact ⟨"\n", by simp [text, members]⟩
  · rw [text_eq hasTop members, List.append_assoc, List.append_assoc]
    exact List.prefix_append _ _

/-- A file with a header of one line and something behind it begins with the line and an
empty one. -/
theorem text_eq_header {f : File} {line : Text} (header : f.header = [line])
    (nonempty : line ≠ []) (more : f.imports ≠ [] ∨ f.members ≠ []) :
    ∃ rest, f.text = line ++ "\n\n" ++ rest := by
  by_cases imports : f.imports = []
  · have members := more.resolve_left (absurd imports)
    have top : f.top = line := by simp [top, header, imports, Text.joinWith]
    rw [text_eq (by rwa [top]) members, top]
    exact ⟨'\n' :: Text.joinWith "\n\n\n" (f.members.map fun m => Text.trim (· = '\n') m.text) ++
      "\n", by simp⟩
  · have top : f.top = line ++ "\n\n" ++ Text.joinWith "\n" f.imports := by
      rw [top_eq (by simp [header]) imports, header]
      rfl
    obtain ⟨rest, text⟩ := top_prefix_text (f := f) (by simp [top])
    exact ⟨Text.joinWith "\n" f.imports ++ rest, by rw [← text, top, List.append_assoc]⟩

end File

end ClientGen.Code
