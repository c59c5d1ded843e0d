/-
# Which names of annotations a class keeps

The annotations of a method are read while its class is being made, in the order of the
methods, and a name that an earlier method has then means that method.  The annotations
of methods mention four names.  All of them mention one, for the result; which others
they mention is seen from the locations of the declared parameters.

A path never gives a method one of these names, since the HTTP method stands in front.
An identifier of an operation does if nothing but the name is left of it, and then the
class keeps the name only where no later method needs it.
-/
import ClientGen.Proofs.Generator
import ClientGen.Proofs.MethodNames

namespace ClientGen

namespace Naming

open Identifier

/-! ## Methods named by one word -/

/-- Completing gives a name without underscores only to this name. -/
theorem eq_of_complete_eq {digitMark stem name : Text} (h : complete digitMark stem = name)
    (inMark : '_' ∈ digitMark) (plain : '_' ∉ name) : stem = name := by
  rw [complete_eq] at h
  split at h
  · exact absurd (h ▸ List.mem_append_right _ List.mem_cons_self) plain
  · rw [marked] at h
    split at h
    · exact absurd (h ▸ List.mem_append_left _ inMark) plain
    · exact h

/-- The name that a path gives is no word other than the HTTP method, which stands in
front of it. -/
theorem pathFunctionName_ne {method name : Text}
    (isMethod : method ≠ [] ∧ Text.Only Text.isAsciiWord method)
    (isName : name ≠ [] ∧ Text.Only Text.isAsciiWord name) (other : method ≠ name) (path : Text) :
    pathFunctionName path method ≠ name := by
  intro same
  have words := congrArg (Text.words Text.isAsciiWord) same
  rw [pathFunctionName, words_sanitize, words_append_underscore,
    Text.words_of_only isMethod.1 isMethod.2, Text.words_of_only isName.1 isName.2] at words
  exact other (List.cons.inj words).1

/-- A method is named by a word that needs no completing exactly if nothing but the word
is left of the operation's own identifier. -/
theorem functionName_eq_iff {method name : Text}
    (isMethod : method ≠ [] ∧ Text.Only Text.isAsciiWord method)
    (isName : name ≠ [] ∧ Text.Only Text.isAsciiWord name) (other : method ≠ name)
    (stays : complete "op_" name = name) (operationId : Option Text) (path : Text) :
    functionName operationId path method = name ↔ operationId.map sanitize = some name := by
  have plain : '_' ∉ name := isName.2.not_mem (by decide)
  constructor
  · intro named
    have stem := eq_of_complete_eq named (by decide) plain
    split at stem
    · exact absurd stem (pathFunctionName_ne isMethod isName other path)
    · cases operationId with
      | none => exact absurd stem.symm isName.1
      | some own => exact congrArg some stem
  · intro own
    rw [functionName, own, Option.getD_some, if_neg (by simpa using isName.1), stays]

end Naming

namespace Code

/-! ## Names in annotations -/

/-- The annotations of a signature: the types of its parameters and of its result. -/
def Function.annotations (f : Function) : List Text :=
  f.signatureParameters.filterMap (·.type.map TypeExpr.text) ++ (nonEmpty? f.response).toList

/-- Some annotation of the function mentions the name. -/
def Function.Mentions (f : Function) (name : Text) : Prop :=
  ∃ annotation ∈ f.annotations, name ∈ Text.words Identifier.isWordChar annotation

instance (f : Function) (name : Text) : Decidable (f.Mentions name) :=
  inferInstanceAs (Decidable (∃ annotation ∈ f.annotations, _))

/-- No function of the class has one of the names and stands before one that mentions it. -/
def Class.Keeps (names : List Text) (c : Class) : Prop :=
  (c.functions.map (·.2)).Pairwise fun f later => f.name ∈ names → ¬ later.Mentions f.name

instance (names : List Text) (c : Class) : Decidable (c.Keeps names) :=
  inferInstanceAs (Decidable (List.Pairwise _ _))

end Code

namespace Client

open Code

variable {op later : IndexedOperation} {name : Text}

/-- The names that annotations of methods are made of. -/
def annotationNames : List Text := ["Any", "Dict", "Optional", "str"].map String.toList

/-- The annotations of a method. -/
theorem annotations_operationMethod (op : IndexedOperation) (encode : Bool) :
    (operationMethod op encode).annotations =
      given (! op.pathParams.isEmpty) "Dict[str, Any]".toList ++
        given (! op.queryParams.isEmpty) "Optional[Dict[str, Any]]".toList ++
        given (! op.headerParams.isEmpty) "Optional[Dict[str, str]]".toList ++
        given op.hasBody "Any".toList ++ ["Any".toList] := by
  have mapping : "Dict[str, Any]".toList = mappingType.text := rfl
  have optionalMapping : "Optional[Dict[str, Any]]".toList = optionalMappingType.text := rfl
  have headers : "Optional[Dict[str, str]]".toList = headersType.text := rfl
  have body : "Any".toList = bodyType.text := rfl
  have result : nonEmpty? (operationMethod op encode).response = some "Any".toList := rfl
  have parameters : (operationMethod op encode).parameters = methodParameters op := rfl
  rw [Function.annotations, Function.signatureParameters, parameters, result, methodParameters,
    mapping, optionalMapping, headers, body]
  cases ! op.pathParams.isEmpty <;> cases ! op.queryParams.isEmpty <;>
    cases ! op.headerParams.isEmpty <;> cases op.hasBody <;> rfl

/-- The operation has parameters that are given as a mapping. -/
def TakesMapping (op : IndexedOperation) : Prop :=
  op.pathParams ≠ [] ∨ op.queryParams ≠ [] ∨ op.headerParams ≠ []

/-- The operation has parameters that are given as a mapping or not at all. -/
def TakesOptionalMapping (op : IndexedOperation) : Prop :=
  op.queryParams ≠ [] ∨ op.headerParams ≠ []

/-- The names that the annotations of a method mention. -/
theorem mentions_operationMethod_iff (encode : Bool) :
    (operationMethod op encode).Mentions name ↔
      name = "Any" ∨ (name = "Dict" ∨ name = "str") ∧ TakesMapping op ∨
        name = "Optional" ∧ TakesOptionalMapping op := by
  have anyWords : Text.words Identifier.isWordChar "Any" = ["Any".toList] := by decide
  have pathWords : Text.words Identifier.isWordChar "Dict[str, Any]" =
      ["Dict".toList, "str".toList, "Any".toList] := by decide
  have queryWords : Text.words Identifier.isWordChar "Optional[Dict[str, Any]]" =
      ["Optional".toList, "Dict".toList, "str".toList, "Any".toList] := by decide
  have headerWords : Text.words Identifier.isWordChar "Optional[Dict[str, str]]" =
      ["Optional".toList, "Dict".toList, "str".toList, "str".toList] := by decide
  rw [Function.Mentions, annotations_operationMethod, TakesMapping, TakesOptionalMapping]
  simp only [List.mem_append, mem_given_iff, or_and_right, exists_or, and_assoc,
    exists_and_left, exists_eq_left, anyWords, pathWords, queryWords, headerWords, List.mem_cons,
    List.not_mem_nil, or_false, Bool.not_eq_true', List.isEmpty_eq_false_iff]
  grind

/-! ## Classes -/

/-- Nothing but the name is left of the operation's own identifier. -/
def TakesName (op : IndexedOperation) (name : Text) : Prop :=
  op.operationId.map Identifier.sanitize = some name

/-- The method of the first operation takes a name that the annotations of the second
operation's method mention. -/
def Captures (op later : IndexedOperation) : Prop :=
  TakesName op "Any" ∨ (TakesName op "Dict" ∨ TakesName op "str") ∧ TakesMapping later ∨
    TakesName op "Optional" ∧ TakesOptionalMapping later

instance : Decidable (TakesName op name) := inferInstanceAs (Decidable (_ = _))

instance : Decidable (TakesMapping op) := inferInstanceAs (Decidable (_ ∨ _ ∨ _))

instance : Decidable (TakesOptionalMapping op) := inferInstanceAs (Decidable (_ ∨ _))

instance : Decidable (Captures op later) := inferInstanceAs (Decidable (_ ∨ _ ∧ _ ∨ _ ∧ _))

/-- A class keeps names that are not the constructor's exactly if its methods do. -/
theorem keeps_tagClass_iff {operations : List IndexedOperation}
    (named : ∀ op ∈ operations, Named op) (className : Text) (encode : Bool) :
    (tagClass className operations encode).Keeps annotationNames ↔
      (emitted operations).Pairwise fun op later =>
        op.functionName ∈ annotationNames →
          ¬ (operationMethod later encode).Mentions op.functionName := by
  have functions : (tagClass className operations encode).functions.map (·.2) =
      constructor :: (emitted operations).map (operationMethod · encode) := by
    rw [tagClass_eq className encode named, emitted]
    simp [List.map_map, Function.comp_def]
  have notTaken : constructor.name ∉ annotationNames := by decide
  rw [Class.Keeps, functions, List.pairwise_cons, List.pairwise_map]
  constructor
  · rintro ⟨-, methods⟩
    exact methods
  · intro methods
    exact ⟨fun _ _ taken => absurd taken notTaken, methods⟩

/-- A method takes a name of annotations that a later one mentions exactly if its
operation captures the name. -/
theorem captures_iff (encode : Bool)
    (names : ∀ name ∈ annotationNames, op.functionName = name ↔ TakesName op name) :
    (op.functionName ∈ annotationNames → ¬ (operationMethod later encode).Mentions op.functionName)
      ↔ ¬ Captures op later := by
  have taken : Captures op later → op.functionName ∈ annotationNames := by
    intro captured
    have someName : ∃ name ∈ annotationNames, TakesName op name := by
      rcases captured with any | ⟨dict | str, -⟩ | ⟨optional, -⟩
      · exact ⟨_, by decide, any⟩
      · exact ⟨_, by decide, dict⟩
      · exact ⟨_, by decide, str⟩
      · exact ⟨_, by decide, optional⟩
    obtain ⟨name, among, takes⟩ := someName
    rwa [(names name among).mpr takes]
  have captures : (operationMethod later encode).Mentions op.functionName ↔ Captures op later := by
    rw [mentions_operationMethod_iff, names "Any" (by decide), names "Dict" (by decide),
      names "str" (by decide), names "Optional" (by decide), Captures]
  rw [captures]
  constructor
  · intro free captured
    exact free (taken captured) captured
  · intro free _
    exact free

end Client

namespace Generator

open Client

/-- The methods of a document's operations take the names of annotations from their
identifiers alone. -/
theorem functionName_eq_annotationName_iff {document : Fields}
    {group : Text × List IndexedOperation} (inGroups : group ∈ Document.groups document)
    {op : IndexedOperation} (among : op ∈ group.2) :
    ∀ name ∈ annotationNames, op.functionName = name ↔ TakesName op name := by
  intro name isName
  obtain ⟨path, method, raw, visited, -, rfl⟩ := Document.exists_of_mem_group inGroups among
  have known := Document.mem_httpMethods_of_mem_operationsOf visited
  have methods : ∀ m ∈ Document.httpMethods, ∀ n ∈ annotationNames, m ≠ n := by decide
  have names : ∀ n ∈ annotationNames, (n ≠ [] ∧ Text.Only Text.isAsciiWord n) ∧
      Identifier.complete "op_" n = n := by decide
  obtain ⟨isWord, stays⟩ := names name isName
  exact Naming.functionName_eq_iff (Document.isAsciiWord_of_mem_httpMethods known) isWord
    (methods method known name isName) stays _ path

/-- The class of a tag keeps the names of its annotations exactly if none of its
operations captures a name from one whose method stands behind its own. -/
theorem keeps_annotations_iff (document : Fields) (encode : Bool) :
    ∀ pair ∈ entryGroups document encode, ∀ entry ∈ (moduleOf encode pair).classes,
      entry.2.Keeps annotationNames ↔
        (emitted pair.2.2).Pairwise fun op later => ¬ Captures op later := by
  intro pair among entry inClasses
  have named := named_of_mem_entryGroups among
  have inGroups := (List.of_mem_zip among).2
  rw [List.mem_singleton.mp inClasses, keeps_tagClass_iff named]
  apply List.Pairwise.iff_of_mem
  intro op later inMethods _
  exact captures_iff encode
    (functionName_eq_annotationName_iff inGroups (mem_of_mem_emitted inMethods))

/-- An operation with an identifier that is a name of annotations. -/
def namedDict : Fields := [("operationId".toList, .str "Dict".toList)]

/-- An operation that takes a parameter of the path. -/
def takesId : Fields :=
  [("operationId".toList, .str "read".toList),
    ("parameters".toList, .arr [.obj
      [("name".toList, .str "id".toList), ("in".toList, .str "path".toList)]])]

/-- A document with these two operations, in an order that does no harm. -/
def harmlessOrder : Fields :=
  [("paths".toList, .obj
    [("/b/\x7bid\x7d".toList, .obj [("get".toList, .obj takesId)]),
      ("/a".toList, .obj [("get".toList, .obj namedDict)])])]

/-- The document with its operations in the other order. -/
def capturingOrder : Fields :=
  [("paths".toList, .obj
    [("/a".toList, .obj [("get".toList, .obj namedDict)]),
      ("/b/\x7bid\x7d".toList, .obj [("get".toList, .obj takesId)])])]

/-- In the one order the class keeps the names of its annotations, in the other it does
not. -/
theorem keeps_annotations_iff_orders :
    (∃ pair ∈ entryGroups harmlessOrder false, ∃ entry ∈ (moduleOf false pair).classes,
        entry.2.Keeps annotationNames) ∧
      ∃ pair ∈ entryGroups capturingOrder false, ∃ entry ∈ (moduleOf false pair).classes,
        ¬ entry.2.Keeps annotationNames := by
  have harmless : ∃ pair ∈ entryGroups harmlessOrder false,
      (emitted pair.2.2).Pairwise fun op later => ¬ Captures op later := by decide
  have capturing : ∃ pair ∈ entryGroups capturingOrder false,
      ¬ (emitted pair.2.2).Pairwise fun op later => ¬ Captures op later := by decide
  obtain ⟨pair, among, free⟩ := harmless
  obtain ⟨pair', among', captured⟩ := capturing
  refine ⟨⟨pair, among, _, List.mem_cons_self, ?_⟩, pair', among', _, List.mem_cons_self, ?_⟩
  · exact (keeps_annotations_iff harmlessOrder false pair among _ List.mem_cons_self).mpr free
  · intro keeps
    exact captured
      ((keeps_annotations_iff capturingOrder false pair' among' _ List.mem_cons_self).mp keeps)

/-- It is not so that every class of a generation keeps the names of its annotations. -/
theorem some_class_loses_annotations :
    ¬ ∀ (document : Fields) (encode : Bool), ∀ file ∈ (generateClient document encode).files,
      ∀ entry ∈ file.classes, entry.2.Keeps annotationNames := by
  intro all
  have loses : ∃ pair ∈ entryGroups capturingOrder false,
      ∃ entry ∈ (moduleOf false pair).classes, ¬ entry.2.Keeps annotationNames := by decide
  obtain ⟨pair, among, entry, inClasses, loses⟩ := loses
  exact loses (all capturingOrder false _ (moduleOf_mem_files among) entry inClasses)

end Generator

end ClientGen
