/-
# A class is the collapse of its operations

Operations of one tag may share the name of their method.  A class then has one method of
that name, at the place of the first such operation and with the text of the last.  Here
this is said of the rendered text: the constructor comes first, then one method for each
distinct name, and each of them reads as it would alone.  The text of a method is made
from its own operation and the choice of encoding, so it is the same in every module.

That the methods are indented as one text, cut at every line end that documentation may
hold, makes no difference: they meet at line feeds.
-/
import ClientGen.Proofs.Groups
import ClientGen.Proofs.Rendering

namespace ClientGen

namespace Document

/-- The operation stands in a group of some document. -/
def Grouped (op : IndexedOperation) : Prop :=
  ∃ document, ∃ group ∈ groups document, op ∈ group.2

/-- An operation of a group has the name that its identifier, path and HTTP method give. -/
theorem Grouped.named {op : IndexedOperation} (h : Grouped op) : Client.Named op := by
  obtain ⟨document, group, inGroups, inGroup⟩ := h
  obtain ⟨path, method, raw, -, -, rfl⟩ := exists_of_mem_group inGroups inGroup
  exact Client.named_recordOf path method raw

end Document

namespace Client

open Code

variable {operations winners : List IndexedOperation} {op : IndexedOperation}

/-- What is left of operations when the last of each name takes the place of the first. -/
structure IsCollapse (operations winners : List IndexedOperation) : Prop where
  names_eq : winners.map (·.functionName) = Ordered.distinct (operations.map (·.functionName))
  last : ∀ op ∈ winners,
    (operations.filter (·.functionName = op.functionName)).getLast? = some op

/-- The operations with a name, as the values paired with it. -/
theorem valuesOf_functionName (operations : List IndexedOperation) (name : Text) :
    Ordered.valuesOf name (operations.map fun op => (op.functionName, op)) =
      operations.filter (·.functionName = name) := by
  rw [Ordered.valuesOf, List.filter_map, List.map_map]
  exact List.map_id _

/-- The operations that become methods are the collapse of the operations. -/
theorem isCollapse_emitted (operations : List IndexedOperation) :
    IsCollapse operations (emitted operations) := by
  have named : ∀ entry ∈ Ordered.ofPairs (operations.map fun op => (op.functionName, op)),
      entry.2.functionName = entry.1 := by
    intro entry among
    obtain ⟨op, -, rfl⟩ := List.mem_map.mp (Ordered.mem_of_mem_ofPairs among)
    rfl
  constructor
  · have keys := Ordered.keys_ofPairs (operations.map fun op => (op.functionName, op))
    rw [List.map_map] at keys
    rw [emitted, List.map_map]
    exact (List.map_congr_left named).trans keys
  · intro op among
    obtain ⟨⟨name, op⟩, inMap, rfl⟩ := List.mem_map.mp among
    obtain rfl : op.functionName = name := named _ inMap
    rw [← valuesOf_functionName]
    exact Ordered.mem_ofPairs_iff.mp inMap

/-- An operation that shares its name with no other one is not lost. -/
theorem IsCollapse.mem_of_unique (h : IsCollapse operations winners) (among : op ∈ operations)
    (unique : ∀ other ∈ operations, other.functionName = op.functionName → other = op) :
    op ∈ winners := by
  have isName : op.functionName ∈ winners.map (·.functionName) := by
    rw [h.names_eq, Ordered.mem_distinct]
    exact List.mem_map_of_mem among
  obtain ⟨winner, wins, same⟩ := List.mem_map.mp isName
  have inOperations : winner ∈ operations :=
    List.mem_of_mem_filter (List.mem_of_getLast? (h.last winner wins))
  rwa [← unique winner inOperations same]

/-- The texts of the functions of a class: the constructor, then the given methods. -/
def functionTexts (winners : List IndexedOperation) (encode : Bool) : List Text :=
  constructor.text :: winners.map fun op => (operationMethod op encode).text

/-- The class of the given methods behind the constructor, each indented on its own. -/
def collapsedText (className : Text) (winners : List IndexedOperation) (encode : Bool) : Text :=
  "class " ++ className ++ ":\n" ++
    Text.joinWith "\n\n" ((functionTexts winners encode).map indent)

/-- Indenting the methods one after the other is indenting each. -/
theorem classText_methodsText (className : Text) (operations : List IndexedOperation)
    (encode : Bool) :
    classText className (methodsText operations encode) =
      collapsedText className (emitted operations) encode := by
  have parts : indent (Text.joinWith "\n\n" (functionTexts (emitted operations) encode)) =
      Text.joinWith "\n\n" ((functionTexts (emitted operations) encode).map indent) :=
    Text.indentBy_joinWith_emptyLine margin _
  unfold classText methodsText collapsedText
  unfold functionTexts at parts ⊢
  exact congrArg (("class " ++ className ++ ":\n") ++ ·) parts

/-- The module of a tag holds one class, and its text is the collapse of the operations: the
constructor, and then for each distinct name in the order of first occurrence the method of
the last operation with it.  The class stands in the module as it is.  The text of a method
is that of its operation alone, so it is the same in every module; an operation that shares
its name with no other is not lost; and no method takes the place of the constructor. -/
theorem class_text_is_collapse (tag : Text) (className fileName : Option Text) (encode : Bool)
    {operations : List IndexedOperation} (grouped : ∀ op ∈ operations, Document.Grouped op) :
    ∃ winners name, IsCollapse operations winners ∧
      name = (nonEmpty? className).getD (Naming.tagClassName tag) ∧
      (standaloneModule tag className fileName operations encode).classes.map (·.2.text) =
        [collapsedText name winners encode] ∧
      (standaloneModule tag className fileName operations encode).text =
        moduleText (moduleHeader tag) encode (collapsedText name winners encode)
          (exportLine name) ∧
      (∀ op ∈ winners, indent (operationMethod op encode).text <:+:
        (standaloneModule tag className fileName operations encode).text) ∧
      (∀ op ∈ operations,
        (∀ other ∈ operations, other.functionName = op.functionName → other = op) →
          op ∈ winners) ∧
      ∀ op ∈ winners, op.functionName ≠ constructor.name := by
  have named : ∀ op ∈ operations, Named op := fun op among => (grouped op among).named
  have collapse := isCollapse_emitted operations
  have text := text_tagModule tag ((nonEmpty? className).getD (Naming.tagClassName tag))
    ((nonEmpty? fileName).getD (defaultFileName tag)) encode named
  rw [classText_methodsText] at text
  refine ⟨emitted operations, _, collapse, rfl, ?_, text, ?_, ?_, ?_⟩
  · have ofClass :=
      text_tagClass ((nonEmpty? className).getD (Naming.tagClassName tag)) encode named
    rw [classText_methodsText] at ofClass
    exact congrArg ([·]) ofClass
  · intro op wins
    have rendered :=
      renderedIn_standaloneModule tag className fileName encode named wins
    obtain ⟨before, after, parts, -⟩ :=
      rendered.exists_indent (endsInLine_operationMethod op encode)
    exact ⟨before, after, by rw [parts, List.append_assoc]⟩
  · exact fun op among unique => collapse.mem_of_unique among unique
  · exact fun op wins => (named op (mem_of_mem_emitted wins)).ne_constructor

/-- Three operations at paths of one document, the first and the last of one identifier. -/
def repeatedDocument : Fields :=
  let listing (identifier : Text) : Value :=
    .obj [("get".toList, .obj [("operationId".toList, .str identifier)])]
  [("paths".toList, .obj
    [("/old".toList, listing "list"), ("/one".toList, listing "read"),
      ("/new".toList, listing "list")])]

/-- An operation of that document. -/
def repeatedOperation (identifier path : Text) : IndexedOperation :=
  Document.recordOf path "get" [("operationId".toList, .str identifier)]

/-- Of its operations the last takes the place of the first. -/
theorem class_text_is_collapse_repeated :
    let old := repeatedOperation "list" "/old"
    let one := repeatedOperation "read" "/one"
    let new := repeatedOperation "list" "/new"
    (∀ op ∈ [old, one, new], Document.Grouped op) ∧
      (standaloneModule "default" (some "Pets") none [old, one, new] true).classes.map (·.2.text) =
        [collapsedText "Pets" [new, one] true] := by
  intro old one new
  have group : ("default".toList, [old, one, new]) ∈ Document.groups repeatedDocument :=
    List.mem_of_getElem? (i := 0) rfl
  have grouped : ∀ op ∈ [old, one, new], Document.Grouped op :=
    fun op among => ⟨repeatedDocument, _, group, among⟩
  obtain ⟨winners, name, collapse, rfl, text, -⟩ :=
    class_text_is_collapse "default" (some "Pets") none true grouped
  have names : winners.map (·.functionName) = ["list".toList, "read".toList] :=
    collapse.names_eq.trans (by decide)
  obtain ⟨first, rest, rfl, firstName, restNames⟩ := List.map_eq_cons_iff.mp names
  obtain ⟨second, others, rfl, secondName, noOthers⟩ := List.map_eq_cons_iff.mp restNames
  obtain rfl := List.map_eq_nil_iff.mp noOthers
  have lastOfFirst := collapse.last first List.mem_cons_self
  have lastOfSecond := collapse.last second (List.mem_cons_of_mem _ List.mem_cons_self)
  rw [firstName] at lastOfFirst
  rw [secondName] at lastOfSecond
  obtain rfl : new = first := Option.some.inj lastOfFirst
  obtain rfl : one = second := Option.some.inj lastOfSecond
  exact ⟨grouped, text⟩

end Client

end ClientGen
