/-
# Groups hold the operations of their tag

What a document says about its operations is the sequence of pairs of an
operation and one of its tags, read off in document order.  The groups are this
sequence sorted by tag and nothing else: each tag stands where it first occurs,
and under it stand its operations, in order and as often as they are paired with
it.

The sequence is defined here straight from the document, without the visits that
the walk makes.
-/
import ClientGen.Document.Walk
import ClientGen.Proofs.Ordered
import Mathlib.Data.List.Basic

namespace ClientGen.Document

/-- The tags that an operation object asks for: those of its list that are not
null, as texts, and the standard tag where that leaves none. -/
def tagsOf (raw : Fields) : List Text :=
  let given := match raw.value "tags" with
    | .arr items => items.filterMap Value.anyText?
    | _ => []
  if given.isEmpty then ["default"] else given

/-- The operations of a path item: the objects under one of the seven methods. -/
def operationsAt (path : Text) (item : Value) : List (Text × Text × Fields) :=
  item.objectFields.filterMap fun (method, value) =>
    match value with
    | .obj raw => if method ∈ httpMethods then some (path, method, raw) else none
    | _ => none

/-- The operations of a document in document order, each with its path and
method. -/
def operationsOf (document : Fields) : List (Text × Text × Fields) :=
  (document.value "paths").objectFields.flatMap fun (path, item) => operationsAt path item

/-- The indexed record of an operation object at a path and a method. -/
def recordOf (path method : Text) (raw : Fields) : IndexedOperation :=
  (Operation.ofFields raw).index path method

/-- Every operation of a document paired with each of its tags. -/
def taggedOperations (document : Fields) : List (IndexedOperation × Text) :=
  (operationsOf document).flatMap fun (path, method, raw) =>
    (tagsOf raw).map fun tag => (recordOf path method raw, tag)

/-- Reading an operation takes the tags that it asks for. -/
theorem filedTags_ofFields (raw : Fields) : (Operation.ofFields raw).filedTags = tagsOf raw := by
  rw [Operation.filedTags, Operation.ofFields, tagsOf]
  cases raw.value "tags" with
  | arr items => rfl
  | null | bool _ | int _ | float _ | str _ | obj _ => rfl

/-- The visits at a path find its operations. -/
theorem found_visitPath (path : Text) (item : Value) :
    (visitPath path item).filterMap Visit.found? = operationsAt path item := by
  cases item with
  | obj fields =>
      rw [visitPath, List.filterMap_filterMap, operationsAt, Value.objectFields]
      apply List.filterMap_congr
      rintro ⟨method, value⟩ -
      by_cases known : method ∈ httpMethods
      · cases value with
        | obj raw => simp [visitField, known, Visit.found?]
        | null | bool _ | int _ | float _ | str _ | arr _ => simp [visitField, known, Visit.found?]
      · cases value with
        | obj raw => simp [visitField, known]
        | null | bool _ | int _ | float _ | str _ | arr _ => simp [visitField, known]
  | null | bool _ | int _ | float _ | str _ | arr _ => rfl

/-- The walk finds the operations of the document. -/
theorem operations_eq (document : Fields) : operations document = operationsOf document := by
  rw [operations, walk, List.filterMap_flatMap, operationsOf]
  apply List.flatMap_congr
  rintro ⟨path, item⟩ -
  exact found_visitPath path item

/-- What is grouped are the tagged operations. -/
theorem groups_eq_groups_taggedOperations (document : Fields) :
    groups document = Ordered.groups ((taggedOperations document).map Prod.swap) := by
  rw [groups, indexedOperations, operations_eq, List.flatMap_map, taggedOperations,
    List.map_flatMap]
  congr 1
  apply List.flatMap_congr
  rintro ⟨path, method, raw⟩ -
  rw [taggedWith, List.map_map]
  show List.map _ (Operation.ofFields raw).filedTags = _
  rw [filedTags_ofFields]
  rfl

/-- The operations paired with a tag, in order. -/
def operationsWith (tag : Text) (pairs : List (IndexedOperation × Text)) :
    List IndexedOperation :=
  (pairs.filter (·.2 = tag)).map (·.1)

/-- The values of a tag among the swapped pairs. -/
theorem valuesOf_swap (tag : Text) (pairs : List (IndexedOperation × Text)) :
    Ordered.valuesOf tag (pairs.map Prod.swap) = operationsWith tag pairs := by
  rw [Ordered.valuesOf, List.filter_map, List.map_map]
  rfl

/-- The groups of a document: the tags in the order of their first occurrence,
each with the operations paired with it. -/
theorem groups_eq_map (document : Fields) :
    groups document = (Ordered.distinct ((taggedOperations document).map (·.2))).map fun tag =>
      (tag, operationsWith tag (taggedOperations document)) := by
  rw [groups_eq_groups_taggedOperations, Ordered.groups_eq, List.map_map]
  apply List.map_congr_left
  intro tag _
  rw [valuesOf_swap]

/-- The tags of the groups. -/
theorem tags_groups (document : Fields) :
    (groups document).map (·.1) = Ordered.distinct ((taggedOperations document).map (·.2)) := by
  rw [groups_eq_map, List.map_map]
  exact List.map_id _

/-- No tag has two groups. -/
theorem nodup_tags_groups (document : Fields) : ((groups document).map (·.1)).Nodup := by
  rw [tags_groups]
  exact Ordered.nodup_distinct _

/-- The operations of a group are those paired with its tag. -/
theorem eq_operationsWith_of_mem_groups {document : Fields} {tag : Text}
    {ops : List IndexedOperation} (h : (tag, ops) ∈ groups document) :
    ops = operationsWith tag (taggedOperations document) := by
  rw [groups_eq_map] at h
  obtain ⟨other, -, same⟩ := List.mem_map.mp h
  obtain ⟨rfl, rfl⟩ := Prod.mk.inj same
  rfl

/-- An operation is in the group of each of its tags, with its own method, path
and name. -/
theorem mem_group_of_mem_tagsOf {document raw : Fields} {path method tag : Text}
    (visited : (path, method, raw) ∈ operationsOf document) (asked : tag ∈ tagsOf raw) :
    ∃ ops, (tag, ops) ∈ groups document ∧ recordOf path method raw ∈ ops := by
  have paired : (recordOf path method raw, tag) ∈ taggedOperations document :=
    List.mem_flatMap.mpr ⟨_, visited, List.mem_map_of_mem asked⟩
  refine ⟨operationsWith tag (taggedOperations document), ?_, ?_⟩
  · rw [groups_eq_map]
    have known : tag ∈ Ordered.distinct ((taggedOperations document).map (·.2)) :=
      Ordered.mem_distinct.mpr (List.mem_map_of_mem (f := (·.2)) paired)
    exact List.mem_map_of_mem known
  · refine List.mem_map.mpr ⟨_, List.mem_filter.mpr ⟨paired, by simp⟩, rfl⟩

/-- An operation in a group comes from the document: it is the record of an
operation object that asks for the tag. -/
theorem exists_of_mem_group {document : Fields} {tag : Text} {ops : List IndexedOperation}
    {op : IndexedOperation} (group : (tag, ops) ∈ groups document) (among : op ∈ ops) :
    ∃ path method raw, (path, method, raw) ∈ operationsOf document ∧ tag ∈ tagsOf raw ∧
      op = recordOf path method raw := by
  rw [eq_operationsWith_of_mem_groups group] at among
  obtain ⟨⟨op', tag'⟩, paired, rfl⟩ := List.mem_map.mp among
  obtain ⟨inPairs, sameTag⟩ := List.mem_filter.mp paired
  have sameTag : tag' = tag := by simpa using sameTag
  subst sameTag
  obtain ⟨⟨path, method, raw⟩, visited, inTags⟩ := List.mem_flatMap.mp inPairs
  obtain ⟨tag'', asked, same⟩ := List.mem_map.mp inTags
  obtain ⟨rfl, rfl⟩ := Prod.mk.inj same
  exact ⟨path, method, raw, visited, asked, rfl⟩

/-- Grouping is complete, exact and stable.  The tags of the groups are the
distinct tags of the document in the order of their first occurrence; under each
stand the operations paired with it, in the same order and as often; the sizes of
the groups add up to the number of pairs; and an operation appears under all of
its tags as one and the same record, with the method and the path it stands at
and the name that these and its identifier give. -/
theorem groups_complete_exact_stable (document : Fields) :
    (groups document).map (·.1) = Ordered.distinct ((taggedOperations document).map (·.2)) ∧
      (∀ group ∈ groups document,
        group.2 = operationsWith group.1 (taggedOperations document)) ∧
      ((groups document).map (·.2.length)).sum = (taggedOperations document).length ∧
      (∀ path method raw, (path, method, raw) ∈ operationsOf document → ∀ tag ∈ tagsOf raw,
        ∃ ops, (tag, ops) ∈ groups document ∧ recordOf path method raw ∈ ops) ∧
      ∀ group ∈ groups document, ∀ op ∈ group.2, ∃ path method raw,
        (path, method, raw) ∈ operationsOf document ∧ op = recordOf path method raw ∧
          op.method = method ∧ op.path = path ∧
          op.functionName =
            Naming.functionName (Operation.ofFields raw).operationId path method := by
  refine ⟨tags_groups document, ?_, ?_, ?_, ?_⟩
  · rintro ⟨tag, ops⟩ group
    exact eq_operationsWith_of_mem_groups group
  · rw [groups_eq_groups_taggedOperations, Ordered.sum_length_groups, List.length_map]
  · intro path method raw visited tag asked
    exact mem_group_of_mem_tagsOf visited asked
  · rintro ⟨tag, ops⟩ group op among
    obtain ⟨path, method, raw, visited, -, rfl⟩ := exists_of_mem_group group among
    exact ⟨path, method, raw, visited, rfl, rfl, rfl, rfl⟩

/-- An operation with a repeated tag, a null one, and a number that is another
operation's tag as a text. -/
def collidingOperation : Fields :=
  [("tags".toList, .arr [.str "x".toList, .null, .int 1, .str "x".toList])]

/-- A document with malformed path items and operations between the sound ones. -/
def collidingDocument : Fields :=
  [("paths".toList, .obj
    [("/a".toList, .obj
        [("get".toList, .obj collidingOperation), ("parameters".toList, .obj []),
          ("post".toList, .arr [])]),
      ("/b".toList, .null),
      ("/c".toList, .obj
        [("put".toList, .obj [("tags".toList, .arr [.str "1".toList])]),
          ("delete".toList, .obj [("tags".toList, .str "x".toList)])])])]

/-- On the colliding tags: three groups of together five operations, and the
first operation stands under the text of the number too. -/
theorem groups_complete_exact_stable_colliding :
    (groups collidingDocument).map (·.1) = ["x".toList, "1".toList, "default".toList] ∧
      ((groups collidingDocument).map (·.2.length)).sum = 5 ∧
      ∃ ops, ("1".toList, ops) ∈ groups collidingDocument ∧
        recordOf "/a" "get" collidingOperation ∈ ops := by
  obtain ⟨tags, -, sizes, copies, -⟩ := groups_complete_exact_stable collidingDocument
  have visited : ("/a".toList, "get".toList, collidingOperation) ∈ operationsOf collidingDocument :=
    List.mem_of_getElem? (i := 0) rfl
  have asked : "1".toList ∈ tagsOf collidingOperation := by decide
  refine ⟨?_, ?_, copies _ _ _ visited _ asked⟩
  · rw [tags]
    decide
  · rw [sizes]
    decide

end ClientGen.Document
