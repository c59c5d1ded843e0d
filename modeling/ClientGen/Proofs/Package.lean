/-
# Files, plan and package file agree

A generated package works as a whole only if four things made apart from each other
fit: the groups of the document, the entries of the plan, the files with what they
define and export, and the imports and exports of the package file.  They do, for
any tags: what each of them says about a tag is the entry's module and class.
-/
import ClientGen.Proofs.Classes

namespace ClientGen

/-! ## Names that differ -/

namespace Naming

/-- The spelling of file names: a small letter or an underscore, then small letters,
digits and underscores, then the ending of files. -/
def IsFileName (name : Text) : Prop :=
  Text.Spelled (fun c => Text.isSmallLetter c || c = '_') isModuleChar ".py" name

/-- The characters of module names are word characters. -/
theorem isWordChar_of_isModuleChar {c : Char} (h : isModuleChar c = true) :
    Identifier.isWordChar c = true := by
  simp only [isModuleChar, Text.isSmallLetter, Bool.or_eq_true, decide_eq_true_eq] at h
  rcases h with (small | digit) | rfl
  · simp [Identifier.isWordChar, Text.isAsciiWord, Text.isAsciiLetter, small]
  · simp [Identifier.isWordChar, Text.isAsciiWord, digit]
  · decide

/-- Module names end as modules do. -/
theorem IsModuleName.ending {name : Text} (h : IsModuleName name) : moduleSuffix <:+ name := by
  obtain ⟨c, body, rfl, -, -⟩ := h
  exact List.suffix_append _ _

/-- Class names end as classes do. -/
theorem IsClassName.ending {name : Text} (h : IsClassName name) : classSuffix <:+ name := by
  obtain ⟨c, body, rfl, -, -⟩ := h
  exact List.suffix_append _ _

/-- No class has the name of a module. -/
theorem IsClassName.ne_moduleName {name other : Text} (h : IsClassName name)
    (module : IsModuleName other) : name ≠ other := by
  rintro rfl
  have both : classSuffix <:+ moduleSuffix :=
    List.suffix_of_suffix_length_le h.ending module.ending (by decide)
  exact absurd both (by decide)

/-- The file of a module name is spelled as a file name. -/
theorem IsModuleName.isFileName {name : Text} (h : IsModuleName name) :
    IsFileName (name ++ ".py") := by
  obtain ⟨c, body, rfl, small, inside⟩ := h
  have more : Text.Only isModuleChar (body ++ "_api") :=
    inside.append (by decide)
  exact ⟨c, body ++ "_api", by simp, by simp [small], more⟩

/-- The file of a module has none of the names that do not end as modules do. -/
theorem IsModuleName.file_ne {name other : Text} (h : IsModuleName name)
    (different : ¬ moduleSuffix <:+ other) : name ++ ".py" ≠ other ++ ".py" := by
  intro same
  rw [List.append_cancel_right_eq] at same
  exact different (same ▸ h.ending)

end Naming

/-! ## Names as literals -/

namespace Literal

/-- The characters of names are printable. -/
theorem isPrintable_of_isWordChar {c : Char} (word : Identifier.isWordChar c = true) :
    Text.isPrintable c = true := by
  have between : ∀ {low high : Char}, low ≤ c → c ≤ high → 0x20 ≤ low.toNat →
      high.toNat < 0x7F → 0x20 ≤ c.toNat ∧ c.toNat < 0x7F :=
    fun fromLow toHigh low high => ⟨Nat.le_trans low fromLow, Nat.lt_of_le_of_lt toHigh high⟩
  have range : 0x20 ≤ c.toNat ∧ c.toNat < 0x7F := by
    simp only [Identifier.isWordChar, Text.isAsciiWord, Text.isAsciiLetter, Text.isAsciiDigit,
      Bool.or_eq_true, Bool.and_eq_true, decide_eq_true_eq] at word
    rcases word with ((⟨low, high⟩ | ⟨low, high⟩) | ⟨low, high⟩) | rfl
    · exact between low high (by decide) (by decide)
    · exact between low high (by decide) (by decide)
    · exact between low high (by decide) (by decide)
    · decide
  rw [Text.isPrintable, if_pos range.2]
  simpa using range.1

/-- The literal of a name is the name in single quotes. -/
theorem encode_of_isWordChar {name : Text} (word : Text.Only Identifier.isWordChar name) :
    encode name = ['\''] ++ name ++ ['\''] := by
  have noQuote : name.elem '\'' = false := by
    have absent : '\'' ∉ name := word.not_mem (by decide)
    simpa using absent
  have stays : ∀ c ∈ name, encodeChar '\'' c = [c] := by
    intro c hc
    have other : ∀ d : Char, Identifier.isWordChar d = false → c ≠ d := by
      rintro d noWord rfl
      rw [word c hc] at noWord
      cases noWord
    have plain : ¬ (c = '\'' ∨ c = '\\') :=
      not_or.mpr ⟨other _ (by decide), other _ (by decide)⟩
    rw [encodeChar, if_neg plain, if_neg (other _ (by decide)), if_neg (other _ (by decide)),
      if_neg (other _ (by decide)), if_pos (isPrintable_of_isWordChar (word c hc))]
  have inside : name.flatMap (encodeChar '\'') = name := by
    rw [List.flatMap_congr stays, List.flatMap_singleton']
  have quote : quoteFor name = '\'' := by
    rw [quoteFor, noQuote]
    rfl
  rw [encode, quote, inside]
  rfl

end Literal

namespace Client

open Code

variable {className : Text} {plan : Plan}

/-! ## The lines of the files -/

/-- The line that exports a class names it in single quotes. -/
theorem exportLine_eq (word : Text.Only Identifier.isWordChar className) :
    exportLine className = "__all__ = ['" ++ className ++ "']" := by
  unfold exportLine
  rw [Literal.encode_of_isWordChar word]
  simp

/-- The line that exports the classes of a plan names them in single quotes. -/
theorem packageExports_eq (sound : plan.Sound) :
    packageExports plan = "__all__ = [" ++
      (plan.classNames.map fun name => ("'" ++ name ++ "', " : Text)).flatten ++
        "*_common_all]" := by
  have names : (plan.classNames.map fun name => Literal.encode name ++ ", ") =
      plan.classNames.map fun name => ("'" ++ name ++ "', " : Text) := by
    apply List.map_congr_left
    intro name among
    obtain ⟨e, inEntries, rfl⟩ := List.mem_map.mp among
    have literal := Literal.encode_of_isWordChar (sound.spelled e inEntries).2.only
    simp [literal]
  unfold packageExports
  rw [names]

/-- The last line of a tag module is the line that exports its class. -/
theorem getLast?_lineBodies_tagModule (tag fileName : Text) (encode : Bool)
    (word : Text.Only Identifier.isWordChar className) {operations : List IndexedOperation}
    (named : ∀ op ∈ operations, Named op) :
    (Text.lineBodies (tagModule tag className fileName operations encode).text).getLast? =
      some (exportLine className) := by
  have noEnds : Text.InLine (exportLine className) := by
    rw [exportLine_eq word]
    simp only [Text.inLine_append_iff]
    exact ⟨⟨by decide, inLine_of_isWordChar word⟩, by decide⟩
  obtain ⟨front, split⟩ : ∃ front : Text,
      (tagModule tag className fileName operations encode).text =
        front ++ '\n' :: (exportLine className ++ ['\n']) := by
    rw [text_tagModule tag className fileName encode named]
    unfold moduleText
    refine ⟨moduleHeader tag ++ "\n\n" ++ Text.joinWith "\n" (moduleImports encode) ++ "\n\n\n" ++
      classText className (methodsText operations encode) ++ "\n\n", ?_⟩
    simp
  rw [split, Text.lineBodies_append_lineFeed, Text.lineBodies_body noEnds, List.getLast?_concat]

/-- The import lines of the package file hold printable characters only. -/
theorem only_packageImports (sound : plan.Sound) :
    ∀ line ∈ packageImports plan, Text.Only Text.isPrintable line := by
  have transport : ∀ line ∈ transportImports, Text.Only Text.isPrintable line := by decide
  refine List.forall_mem_append.mpr ⟨?_, transport⟩
  intro line among
  obtain ⟨e, inEntries, rfl⟩ := List.mem_map.mp among
  obtain ⟨module, class'⟩ := sound.spelled e inEntries
  have opening : Text.Only Text.isPrintable "from ." := by decide
  have between : Text.Only Text.isPrintable " import " := by decide
  have wordModule := module.only.imp fun _ => Naming.isWordChar_of_isModuleChar
  unfold importLine
  simp only [Text.only_append_iff]
  exact ⟨⟨⟨opening, wordModule.imp fun _ => Literal.isPrintable_of_isWordChar⟩, between⟩,
    class'.only.imp fun _ => Literal.isPrintable_of_isWordChar⟩

/-- The line of exports of the package file holds printable characters only. -/
theorem only_packageExports (plan : Plan) :
    Text.Only Text.isPrintable (packageExports plan) := by
  have opening : Text.Only Text.isPrintable "__all__ = [" := by decide
  have closing : Text.Only Text.isPrintable "*_common_all]" := by decide
  have comma : Text.Only Text.isPrintable ", " := by decide
  unfold packageExports
  simp only [Text.only_append_iff]
  refine ⟨⟨opening, ?_⟩, closing⟩
  intro c hc
  obtain ⟨t, among, inText⟩ := List.mem_flatten.mp hc
  obtain ⟨name, -, rfl⟩ := List.mem_map.mp among
  rcases List.mem_append.mp inText with inLiteral | inComma
  · exact Literal.only_encode name c inLiteral
  · exact comma c inComma

/-- The lines of the package file hold no line ends. -/
theorem inLine_packageLines (sound : plan.Sound) :
    ∀ line ∈ packageLines plan, Text.InLine line := by
  have header : ∀ line ∈ [packageHeader, []], Text.InLine line := by decide
  have imports : ∀ line ∈ packageImports plan, Text.InLine line :=
    fun line among => (only_packageImports sound line among).inLine
  have exports := (only_packageExports plan).inLine
  have empty : Text.InLine [] := by decide
  simp only [packageLines, List.forall_mem_append]
  refine ⟨⟨header, imports⟩, ?_⟩
  simpa [empty] using exports

/-- The lines of the package file. -/
theorem lineBodies_packageFile (sound : plan.Sound) :
    Text.lineBodies (packageFile plan).text = packageLines plan := by
  rw [text_packageFile]
  exact Text.lineBodies_joinWith (List.cons_ne_nil _ _) (inLine_packageLines sound)

/-- Whether a line imports something. -/
def isImportLine (line : Text) : Bool :=
  "from ".toList.isPrefixOf line || "import ".toList.isPrefixOf line

/-- The import lines of a source text. -/
def importLines (t : Text) : List Text := (Text.lineBodies t).filter isImportLine

/-- The import lines of the package file import the classes of the plan, and then the
transport. -/
theorem importLines_packageFile (sound : plan.Sound) :
    importLines (packageFile plan).text = packageImports plan := by
  have imports : ∀ line ∈ packageImports plan, isImportLine line = true := by
    simp only [packageImports, List.forall_mem_append]
    refine ⟨?_, by decide⟩
    intro line among
    obtain ⟨e, -, rfl⟩ := List.mem_map.mp among
    unfold importLine isImportLine
    simp [List.isPrefixOf]
  have header : [packageHeader, []].filter isImportLine = [] := by decide
  have exports : [[], [], packageExports plan].filter isImportLine = [] := by
    have noImport : isImportLine (packageExports plan) = false := by
      unfold packageExports isImportLine
      simp [List.isPrefixOf]
    have empty : isImportLine [] = false := by decide
    simp [noImport, empty]
  rw [importLines, lineBodies_packageFile sound, packageLines, List.filter_append,
    List.filter_append, header, exports, List.filter_eq_self.mpr imports, List.append_nil]
  rfl

end Client

namespace Generator

open Client

variable {document : Fields} {encode : Bool} {plan : Plan}

/-! ## A whole generation -/

/-- The names that a class shares a module or the package with. -/
def takenNames : List Text :=
  ["HttpClient", "RequestFailure", "Any", "Dict", "Optional", "quote"].map String.toList

/-- The classes of a sound plan have none of the names they could be confused with. -/
theorem className_apart (sound : plan.Sound) :
    ∀ name ∈ plan.classNames, name ∉ plan.moduleNames ∧ name ∉ takenNames := by
  intro name among
  obtain ⟨e, inEntries, rfl⟩ := List.mem_map.mp among
  have isClass := (sound.spelled e inEntries).2
  constructor
  · intro inModules
    obtain ⟨other, inEntries', same⟩ := List.mem_map.mp inModules
    exact isClass.ne_moduleName (sound.spelled other inEntries').1 same.symm
  · intro taken
    have none : ∀ other ∈ takenNames, ¬ Naming.classSuffix <:+ other := by decide
    exact none _ taken isClass.ending

/-- The names of the files that a plan asks for: the transport, the module of each
entry, the package file. -/
def plannedNames (plan : Plan) : List Text :=
  "common.py".toList :: plan.moduleNames.map (· ++ ".py".toList) ++ ["__init__.py".toList]

/-- The names of the files of a generation. -/
theorem fileNames_generate (document : Fields) (encode : Bool) :
    (generateClient document encode).fileNames =
      plannedNames (start document encode).generate.plan := by
  have lengths := congrArg List.length (sizes_generate document encode)
  have entries : (entryGroups document encode).map (·.1) =
      (start document encode).generate.plan.entries := by
    apply List.map_fst_zip
    simpa [sizes] using lengths.le
  have names : ((entryGroups document encode).map (moduleOf encode)).map (·.name) =
      (start document encode).generate.plan.moduleNames.map (· ++ ".py".toList) := by
    rw [Plan.moduleNames, ← entries]
    simp only [List.map_map]
    rfl
  rw [Code.Project.fileNames, files_generate, List.map_append, List.map_cons, names]
  rfl

/-- The files of a sound plan have distinct names. -/
theorem nodup_plannedNames (sound : plan.Sound) : (plannedNames plan).Nodup := by
  have modules : (plan.moduleNames.map (· ++ ".py".toList)).Nodup :=
    sound.modules_nodup.map (List.append_left_injective ".py".toList)
  have other : ∀ name : Text, ¬ Naming.moduleSuffix <:+ name →
      name ++ ".py".toList ∉ plan.moduleNames.map (· ++ ".py".toList) := by
    intro name different among
    obtain ⟨module, inModules, same⟩ := List.mem_map.mp among
    obtain ⟨e, inEntries, rfl⟩ := List.mem_map.mp inModules
    exact (sound.spelled e inEntries).1.file_ne different same
  have transport : "common.py".toList ∉ plan.moduleNames.map (· ++ ".py".toList) :=
    other "common" (by decide)
  have package : "__init__.py".toList ∉ plan.moduleNames.map (· ++ ".py".toList) :=
    other "__init__" (by decide)
  rw [plannedNames, List.nodup_append]
  refine ⟨List.nodup_cons.mpr ⟨transport, modules⟩, List.nodup_singleton _, ?_⟩
  intro name among last isLast
  rw [List.mem_singleton.mp isLast]
  rintro rfl
  rcases List.mem_cons.mp among with same | inModules
  · exact absurd same (by decide)
  · exact package inModules

/-- The files of a generation have distinct names. -/
theorem nodup_names_generate (document : Fields) (encode : Bool) :
    ((generateClient document encode).files.map (·.name)).Nodup := by
  have names := fileNames_generate document encode
  rw [Code.Project.fileNames] at names
  rw [names]
  exact nodup_plannedNames (sound_generate document encode)

/-- The files of a sound plan are spelled as file names. -/
theorem isFileName_plannedNames (sound : plan.Sound) :
    ∀ name ∈ plannedNames plan, Naming.IsFileName name := by
  intro name among
  rcases List.mem_append.mp among with among | isPackage
  · rcases List.mem_cons.mp among with rfl | inModules
    · exact ⟨'c', "ommon".toList, by decide, by decide, by decide⟩
    · obtain ⟨module, inNames, rfl⟩ := List.mem_map.mp inModules
      obtain ⟨e, inEntries, rfl⟩ := List.mem_map.mp inNames
      exact (sound.spelled e inEntries).1.isFileName
  · rw [List.mem_singleton.mp isPackage]
    exact ⟨'_', "_init__".toList, by decide, by decide, by decide⟩

/-- A module of a generation defines the class of its entry and no other. -/
theorem definedClasses_moduleOf {pair : PlanEntry × Text × List IndexedOperation}
    (h : pair ∈ entryGroups document encode) :
    definedClasses (moduleOf encode pair).text = some [pair.1.className] := by
  have spelled := (spelled_of_mem_entryGroups h).2
  have named := named_of_mem_entryGroups h
  have read := readsAs_tagModule pair.2.1 pair.1.fileName spelled encode named
  have words : ∀ m ∈ methodShapes pair.2.2, Text.Only Identifier.isWordChar m.name := by
    intro m among
    obtain ⟨op, emitted, rfl⟩ := List.mem_map.mp among
    exact (named op (mem_of_mem_emitted emitted)).only
  have skeleton : Lexis.skeleton (moduleOf encode pair).text =
      some (moduleSkeleton pair.1.className encode (methodShapes pair.2.2)) := read.skeleton_eq
  rw [definedClasses, skeleton, Option.map_some, classesIn_moduleSkeleton spelled.only encode words]

/-- Groups, plan, files and package file of a generation agree.  The entries of the
plan are of the tags of the groups, in their order and with their sizes; the files are
the transport, the module of each entry and the package file, under distinct names;
the module of an entry defines its class alone and exports it; the package file
imports and exports the class of each entry from its module, in order; and no class
has the name of another, of a module or of anything it is imported beside. -/
theorem files_plan_package_agree (document : Fields) (encode : Bool) :
    let plan := (start document encode).generate.plan
    let files := (generateClient document encode).files
    plan.entries.map (fun e => (e.tag, e.operationCount)) =
        (Document.groups document).map (fun group => (group.1, (group.2.length : Int))) ∧
      files.length = (Document.groups document).length + 2 ∧
      files = Transport.file :: (entryGroups document encode).map (moduleOf encode) ++
        [packageFile plan] ∧
      files.map (·.name) =
        "common.py".toList :: plan.moduleNames.map (· ++ ".py".toList) ++ ["__init__.py".toList] ∧
      (files.map (·.name)).Nodup ∧
      (∀ name ∈ files.map (·.name), Naming.IsFileName name) ∧
      (∀ pair ∈ entryGroups document encode,
        definedClasses (moduleOf encode pair).text = some [pair.1.className] ∧
          (Text.lineBodies (moduleOf encode pair).text).getLast? =
            some ("__all__ = ['" ++ pair.1.className ++ "']")) ∧
      importLines (packageFile plan).text =
        plan.entries.map
            (fun e => ("from ." ++ e.moduleName ++ " import " ++ e.className : Text)) ++
          ["from .common import *".toList,
            "from .common import __all__ as _common_all".toList] ∧
      (Text.lineBodies (packageFile plan).text).getLast? =
        some ("__all__ = [" ++
          (plan.classNames.map fun name => ("'" ++ name ++ "', " : Text)).flatten ++
            "*_common_all]") ∧
      plan.classNames.Nodup ∧
      ∀ name ∈ plan.classNames, name ∉ plan.moduleNames ∧ name ∉ takenNames := by
  intro plan files
  have sound : plan.Sound := sound_generate document encode
  have names : files.map (·.name) = plannedNames plan := fileNames_generate document encode
  have made : files = Transport.file :: (entryGroups document encode).map (moduleOf encode) ++
      [packageFile plan] := files_generate document encode
  refine ⟨sizes_generate document encode, ?_, made, names, ?_, ?_, ?_,
    importLines_packageFile sound, ?_, sound.classes_nodup, className_apart sound⟩
  · rw [made]
    simp [length_entryGroups]
  · rw [names]
    exact nodup_plannedNames sound
  · rw [names]
    exact isFileName_plannedNames sound
  · intro pair among
    have word := (spelled_of_mem_entryGroups among).2.only
    refine ⟨definedClasses_moduleOf among, ?_⟩
    rw [← exportLine_eq word]
    exact getLast?_lineBodies_tagModule pair.2.1 pair.1.fileName encode word
      (named_of_mem_entryGroups among)
  · rw [lineBodies_packageFile sound, ← packageExports_eq sound, packageLines, List.getLast?_append]
    rfl

/-- A document with one operation under tags whose names collide. -/
def collidingTags : Fields :=
  [("paths".toList, .obj [("/users".toList, .obj [("get".toList, .obj
    [("tags".toList, .arr [.str "users".toList, .str "Users".toList, .str "2fa".toList,
      .str [], .str "users".toList])])])])]

/-- On the colliding tags: four modules under distinct names, and the module of the
second tag defines a class of its own. -/
theorem files_plan_package_agree_colliding :
    (generateClient collidingTags true).files.map (·.name) =
        ["common.py", "users_api.py", "users_2_api.py", "tag_2fa_api.py", "default_api.py",
          "__init__.py"].map String.toList ∧
      ∃ pair ∈ entryGroups collidingTags true, pair.2.1 = "Users".toList ∧
        pair.1.className = "Users2Api".toList ∧
        definedClasses (moduleOf true pair).text = some [pair.1.className] := by
  obtain ⟨-, -, -, names, -, -, modules, -⟩ := files_plan_package_agree collidingTags true
  refine ⟨?_, ?_⟩
  · rw [names]
    decide
  · have second : 1 < (entryGroups collidingTags true).length := by decide
    exact ⟨_, List.getElem_mem second, by decide +revert, by decide +revert,
      (modules _ (List.getElem_mem second)).1⟩

end Generator

end ClientGen
