/-
# Edits that do not show

A generated client says of an operation which arguments it takes, and no more: of the
parameters it keeps the names per location, and only whether there are any where they
are not looked up by name; of the body, whether there is one; of the description,
nothing.  What a document says beyond that can be edited at will.

The edits are listed here as a relation between documents.  Each of them is traced to
the one thing that generating reads of an operation, its tags and its method as a
whole; from there on, equal inputs give equal outputs.
-/
import ClientGen.Proofs.Generator
import ClientGen.Proofs.Normalisation
import Mathlib.Logic.Relation

namespace ClientGen

namespace Ordered

variable {κ α β : Type} [DecidableEq κ]

/-- An entry of another key does not count. -/
theorem get?_insert {key k : κ} (different : k ≠ key) (value : α) (front back : List (κ × α)) :
    get? key (front ++ (k, value) :: back) = get? key (front ++ back) := by
  rw [get?_append, get?_append, get?, if_neg different]

/-- Another value of one entry is seen, if at all, under the key of the entry. -/
theorem get?_replace (key k : κ) (value value' : α) (front back : List (κ × α)) :
    get? key (front ++ (k, value) :: back) = get? key (front ++ (k, value') :: back) ∨
      (k = key ∧ get? key (front ++ (k, value) :: back) = some value ∧
        get? key (front ++ (k, value') :: back) = some value') := by
  by_cases same : k = key
  · rw [get?_append, get?_append, get?, get?, if_pos same, if_pos same]
    cases get? key front with
    | none => exact Or.inr ⟨same, rfl, rfl⟩
    | some first => exact Or.inl rfl
  · rw [get?_insert same, get?_insert same]
    exact Or.inl rfl

/-- Where no key occurs twice, the order of the entries does not count. -/
theorem get?_perm {m m' : List (κ × α)} (distinct : (m.map (·.1)).Nodup) (same : m.Perm m')
    (key : κ) : get? key m = get? key m' := by
  have distinct' : (m'.map (·.1)).Nodup := (same.map _).nodup_iff.mp distinct
  apply Option.ext
  intro value
  rw [get?_eq_some_iff distinct, get?_eq_some_iff distinct', same.mem_iff]

/-- Values may be changed before they are grouped or after it. -/
theorem groups_map (f : α → β) (pairs : List (κ × α)) :
    groups (pairs.map (Prod.map id f)) = (groups pairs).map (Prod.map id (List.map f)) := by
  have keys : (pairs.map (Prod.map id f)).map (·.1) = pairs.map (·.1) := by
    rw [List.map_map]
    rfl
  rw [groups_eq, groups_eq, keys, List.map_map]
  apply List.map_congr_left
  intro key _
  rw [valuesOf, List.filter_map, List.map_map, Function.comp_apply, Prod.map, valuesOf,
    List.map_map]
  rfl

end Ordered

/-! ## The edits -/

namespace Document

/-- The locations whose parameters a client takes. -/
def readLocations : List Text := ["path".toList, "query".toList, "header".toList]

/-- An entry of a list of parameters that is read: an object with a text as its name
that is not empty, and with one of the three locations. -/
def IsRead (entry : Value) : Prop :=
  ∃ (fields : Fields) (name location : Text), entry = .obj fields ∧
    fields.value "name" = .str name ∧ name ≠ [] ∧
    fields.aliased "in" "location" = .str location ∧ location ∈ readLocations

/-- The fields of an operation that are read. -/
def readFields : List Text :=
  ["operationId", "operation_id", "tags", "summary", "parameters", "requestBody",
    "request_body"].map String.toList

/-- An object with its fields in another order. -/
def Reordered (fields fields' : Fields) : Prop := (fields.map (·.1)).Nodup ∧ fields.Perm fields'

/-- An edit of a list of parameters. -/
inductive ParametersEdit : List Value → List Value → Prop
  | permute {entries entries' : List Value} :
      entries.Perm entries' → ParametersEdit entries entries'
  | duplicate (front back : List Value) {entry : Value} :
      entry ∈ front ++ back → ParametersEdit (front ++ back) (front ++ entry :: back)
  | unread (front back : List Value) {entry : Value} :
      ¬ IsRead entry → ParametersEdit (front ++ back) (front ++ entry :: back)
  | reorder (front back : List Value) {fields fields' : Fields} : Reordered fields fields' →
      ParametersEdit (front ++ .obj fields :: back) (front ++ .obj fields' :: back)

/-- An edit of an operation.  A field that is not read may be added; the description is
one of them. -/
inductive OperationEdit : Fields → Fields → Prop
  | parameters (front back : Fields) {entries entries' : List Value} :
      ParametersEdit entries entries' →
      OperationEdit (front ++ ("parameters".toList, .arr entries) :: back)
        (front ++ ("parameters".toList, .arr entries') :: back)
  | body (front back : Fields) {key : Text} {value value' : Value} :
      key ∈ ["requestBody".toList, "request_body".toList] →
      value.isNull = false → value'.isNull = false →
      OperationEdit (front ++ (key, value) :: back) (front ++ (key, value') :: back)
  | description (front back : Fields) (value value' : Value) :
      OperationEdit (front ++ ("description".toList, value) :: back)
        (front ++ ("description".toList, value') :: back)
  | unread (front back : Fields) {key : Text} (value : Value) : key ∉ readFields →
      OperationEdit (front ++ back) (front ++ (key, value) :: back)
  | reorder {fields fields' : Fields} : Reordered fields fields' → OperationEdit fields fields'

/-- An edit of a path item. -/
inductive PathItemEdit : Fields → Fields → Prop
  | operation (front back : Fields) (method : Text) {raw raw' : Fields} : OperationEdit raw raw' →
      PathItemEdit (front ++ (method, .obj raw) :: back) (front ++ (method, .obj raw') :: back)
  | unread (front back : Fields) {key : Text} (value : Value) : key ∉ httpMethods →
      PathItemEdit (front ++ back) (front ++ (key, value) :: back)

/-- An edit of a document. -/
inductive DocumentEdit : Fields → Fields → Prop
  | pathItem (front back before after : Fields) (path : Text) {item item' : Fields} :
      PathItemEdit item item' →
      DocumentEdit
        (front ++ ("paths".toList, .obj (before ++ (path, .obj item) :: after)) :: back)
        (front ++ ("paths".toList, .obj (before ++ (path, .obj item') :: after)) :: back)
  | unread (front back : Fields) {key : Text} (value : Value) : key ≠ "paths".toList →
      DocumentEdit (front ++ back) (front ++ (key, value) :: back)

/-! ## What is read of an operation -/

/-- An entry declares a name for a location. -/
def Declares (location name : Text) (entry : Value) : Prop :=
  (OperationParameter.ofFields entry.objectFields).location = some location ∧
    (OperationParameter.ofFields entry.objectFields).name = some name ∧ name ≠ []

theorem ownText?_eq_some_iff {v : Value} {t : Text} : v.ownText? = some t ↔ v = .str t := by
  cases v <;> simp [Value.ownText?]

/-- An entry that declares a name for a location of interest is read. -/
theorem Declares.isRead {location name : Text} {entry : Value} (h : Declares location name entry)
    (among : location ∈ readLocations) : IsRead entry := by
  obtain ⟨hasLocation, hasName, some⟩ := h
  have hasLocation := ownText?_eq_some_iff.mp hasLocation
  have hasName := ownText?_eq_some_iff.mp hasName
  cases entry with
  | obj fields => exact ⟨fields, name, location, rfl, hasName, some, hasLocation, among⟩
  | null | bool _ | int _ | float _ | str _ | arr _ => cases hasName

/-- The names of a location are those that entries declare for it. -/
theorem mem_paramNames_iff {raw : Fields} {location name : Text} :
    name ∈ (Operation.ofFields raw).paramNames location ↔
      ∃ entry ∈ (raw.value "parameters").listItems, Declares location name entry := by
  rw [Operation.mem_paramNames]
  constructor
  · rintro ⟨_, read, declared⟩
    obtain ⟨entry, among, rfl⟩ := List.mem_map.mp read
    exact ⟨entry, among, declared⟩
  · rintro ⟨entry, among, declared⟩
    exact ⟨_, List.mem_map_of_mem among, declared⟩

/-- A reordered object declares the same names. -/
theorem Reordered.ofFields_eq {fields fields' : Fields} (h : Reordered fields fields') :
    OperationParameter.ofFields fields = OperationParameter.ofFields fields' := by
  have same : ∀ key, Ordered.get? key fields = Ordered.get? key fields' :=
    Ordered.get?_perm h.1 h.2
  rw [OperationParameter.ofFields, Fields.value_congr (same _),
    Fields.aliased_congr (same _) (same _)]
  rfl

/-- An edit of a list of parameters keeps the names that it declares for the locations of
interest. -/
theorem ParametersEdit.declares_iff {entries entries' : List Value}
    (h : ParametersEdit entries entries') {location : Text} (among : location ∈ readLocations)
    (name : Text) :
    (∃ entry ∈ entries, Declares location name entry) ↔
      ∃ entry ∈ entries', Declares location name entry := by
  cases h with
  | permute same => simp only [same.mem_iff]
  | @duplicate front back entry known =>
      constructor
      · rintro ⟨other, there, declares⟩
        exact ⟨other, List.mem_append.mpr ((List.mem_append.mp there).imp_right
          (List.mem_cons_of_mem _)), declares⟩
      · rintro ⟨other, there, declares⟩
        rcases List.mem_append.mp there with inFront | inRest
        · exact ⟨other, List.mem_append_left _ inFront, declares⟩
        · rcases List.mem_cons.mp inRest with rfl | inBack
          · exact ⟨other, known, declares⟩
          · exact ⟨other, List.mem_append_right _ inBack, declares⟩
  | @unread front back entry ignored =>
      have silent : ¬ Declares location name entry :=
        fun declares => ignored (declares.isRead among)
      simp [or_and_right, exists_or, silent]
  | @reorder front back fields fields' same =>
      have alike :
          Declares location name (.obj fields) ↔ Declares location name (.obj fields') := by
        rw [Declares, Declares, Value.objectFields, Value.objectFields, same.ofFields_eq]
      simp [or_and_right, exists_or, alike]

/-! ## Operations that look alike -/

/-- Two operations say the same as far as a client shows it. -/
structure Alike (op op' : Operation) : Prop where
  operationId_eq : op.operationId = op'.operationId
  tags_eq : op.tags = op'.tags
  summary_eq : op.summary = op'.summary
  hasBody_eq : op.hasBody = op'.hasBody
  names_iff : ∀ location ∈ readLocations, ∀ name,
    name ∈ op.paramNames location ↔ name ∈ op'.paramNames location

/-- The operation of an object has a body if the value under the first of the two names
that occurs is not null. -/
theorem hasBody_ofFields (raw : Fields) :
    (Operation.ofFields raw).hasBody =
      ! (raw.aliased "requestBody" "request_body").isNull := by
  rw [Operation.hasBody, Operation.ofFields]
  cases raw.aliased "requestBody" "request_body" <;> rfl

/-- Two objects with the same fields of those that are read, up to the parameters they
declare and to what the body is, give operations that look alike. -/
theorem alike_of_agree {raw raw' : Fields}
    (texts : ∀ key ∈ ["operationId", "operation_id", "tags", "summary"].map String.toList,
      Ordered.get? key raw = Ordered.get? key raw')
    (names : ∀ location ∈ readLocations, ∀ name,
      (∃ entry ∈ (raw.value "parameters").listItems, Declares location name entry) ↔
        ∃ entry ∈ (raw'.value "parameters").listItems, Declares location name entry)
    (body : (raw.aliased "requestBody" "request_body").isNull =
      (raw'.aliased "requestBody" "request_body").isNull) :
    Alike (Operation.ofFields raw) (Operation.ofFields raw') where
  operationId_eq := by
    have first := texts "operationId".toList (by simp)
    have second := texts "operation_id".toList (by simp)
    simp only [Operation.ofFields, Fields.aliased_congr first second]
  tags_eq := by
    have tags := texts "tags".toList (by simp)
    simp only [Operation.ofFields, Fields.value_congr tags]
  summary_eq := by
    have summary := texts "summary".toList (by simp)
    simp only [Operation.ofFields, Fields.value_congr summary]
  hasBody_eq := by
    rw [hasBody_ofFields, hasBody_ofFields, body]
  names_iff := by
    intro location among name
    rw [mem_paramNames_iff, mem_paramNames_iff]
    exact names location among name

/-- Two objects with the same fields of those that are read give operations that look
alike. -/
theorem alike_of_agree_readFields {raw raw' : Fields}
    (same : ∀ key ∈ readFields, Ordered.get? key raw = Ordered.get? key raw') :
    Alike (Operation.ofFields raw) (Operation.ofFields raw') := by
  apply alike_of_agree
  · intro key among
    exact same key (List.mem_append_left _ among)
  · intro location _ name
    rw [Fields.value_congr (same "parameters".toList (by simp [readFields]))]
  · rw [Fields.aliased_congr (same "requestBody".toList (by simp [readFields]))
      (same "request_body".toList (by simp [readFields]))]

/-- An edit of one list of parameters keeps the names that the object declares. -/
theorem declares_iff_of_parametersEdit {front back : Fields} {entries entries' : List Value}
    (edit : ParametersEdit entries entries') {location : Text} (among : location ∈ readLocations)
    (name : Text) :
    let raw := front ++ ("parameters".toList, .arr entries) :: back
    let raw' := front ++ ("parameters".toList, .arr entries') :: back
    (∃ entry ∈ (raw.value "parameters").listItems, Declares location name entry) ↔
      ∃ entry ∈ (raw'.value "parameters").listItems, Declares location name entry := by
  intro raw raw'
  rcases Ordered.get?_replace "parameters".toList "parameters".toList (Value.arr entries)
    (.arr entries') front back with same | ⟨-, before, after⟩
  · rw [Fields.value_congr same]
  · have before : raw.value "parameters" = .arr entries := by
      rw [Fields.value, before]
      rfl
    have after : raw'.value "parameters" = .arr entries' := by
      rw [Fields.value, after]
      rfl
    rw [before, after]
    exact edit.declares_iff among name

/-- Another body in the place of one leaves it undecided only what the body is. -/
theorem isNull_aliased_of_replace {front back : Fields} {key : Text} {value value' : Value}
    (some : value.isNull = false) (some' : value'.isNull = false) (first second : Text) :
    (Fields.aliased first second (front ++ (key, value) :: back)).isNull =
      (Fields.aliased first second (front ++ (key, value') :: back)).isNull := by
  have each : ∀ k, Ordered.has k (front ++ (key, value) :: back) =
        Ordered.has k (front ++ (key, value') :: back) ∧
      (Fields.value k (front ++ (key, value) :: back)).isNull =
        (Fields.value k (front ++ (key, value') :: back)).isNull := by
    intro k
    rcases Ordered.get?_replace k key value value' front back with same | ⟨-, before, after⟩
    · rw [Ordered.has, Ordered.has, same, Fields.value_congr same]
      exact ⟨rfl, rfl⟩
    · rw [Ordered.has, Ordered.has, Fields.value, Fields.value, before, after]
      exact ⟨rfl, some.trans some'.symm⟩
  rw [Fields.aliased, Fields.aliased, (each first).1]
  split
  · exact (each first).2
  · exact (each second).2

/-- An edit of an operation gives one that looks alike. -/
theorem OperationEdit.alike {raw raw' : Fields} (h : OperationEdit raw raw') :
    Alike (Operation.ofFields raw) (Operation.ofFields raw') := by
  have other : ∀ {front back : Fields} {key k : Text} {value value' : Value}, key ≠ k →
      Ordered.get? k (front ++ (key, value) :: back) =
        Ordered.get? k (front ++ (key, value') :: back) := by
    intro front back key k value value' different
    rw [Ordered.get?_insert different, Ordered.get?_insert different]
  cases h with
  | @parameters front back entries entries' edit =>
      apply alike_of_agree
      · intro key among
        apply other
        rintro rfl
        exact absurd among (by decide)
      · intro location among name
        exact declares_iff_of_parametersEdit edit among name
      · rw [Fields.aliased_congr (other (by decide)) (other (by decide))]
  | @body front back key value value' isBody some some' =>
      have different : ∀ k, k ∉ ["requestBody".toList, "request_body".toList] → key ≠ k := by
        rintro k unlike rfl
        exact unlike isBody
      apply alike_of_agree
      · intro k among
        apply other
        apply different
        intro isBody
        have apart : ∀ k ∈ ["requestBody".toList, "request_body".toList],
            k ∉ ["operationId", "operation_id", "tags", "summary"].map String.toList := by decide
        exact apart k isBody among
      · intro location _ name
        rw [Fields.value_congr (other (different _ (by decide)))]
      · exact isNull_aliased_of_replace some some' _ _
  | description front back value value' =>
      apply alike_of_agree_readFields
      intro key among
      apply other
      rintro rfl
      exact absurd among (by decide)
  | @unread front back key value unknown =>
      apply alike_of_agree_readFields
      intro k among
      rw [Ordered.get?_insert]
      rintro rfl
      exact unknown among
  | reorder same =>
      apply alike_of_agree_readFields
      intro key _
      exact Ordered.get?_perm same.1 same.2 key

end Document

/-! ## What a client shows of an operation -/

namespace Client

variable {op op' : Operation} (path method : Text) (encode : Bool)

/-- Lists with the same elements are empty together. -/
theorem isEmpty_congr {l l' : List Text} (h : ∀ name, name ∈ l ↔ name ∈ l') :
    l.isEmpty = l'.isEmpty := by
  rw [Bool.eq_iff_iff, List.isEmpty_iff, List.isEmpty_iff, List.eq_nil_iff_forall_not_mem,
    List.eq_nil_iff_forall_not_mem]
  simp only [h]

/-- A path expression goes by which names are declared, not by their order. -/
theorem pathExpression_congr {names names' : List Text} (h : ∀ name, name ∈ names ↔ name ∈ names') :
    pathExpression path (some names) encode = pathExpression path (some names') encode := by
  have sameTerm : PathTerm.ofChunk (some names) = PathTerm.ofChunk (some names') := by
    funext chunk
    cases chunk with
    | literal t => rfl
    | placeholder name =>
        have sameDeclared : names.contains name = names'.contains name := by
          rw [Bool.eq_iff_iff, List.contains_iff_mem, List.contains_iff_mem, h]
        simp only [PathTerm.ofChunk, Option.all_some, sameDeclared]
  rw [pathExpression, PathTerm.ofPath, sameTerm, ← PathTerm.ofPath, ← pathExpression]

/-- Operations that look alike have the same method. -/
theorem operationMethod_congr (h : Document.Alike op op') :
    operationMethod (op.index path method) encode =
      operationMethod (op'.index path method) encode := by
  have names : ∀ location ∈ Document.readLocations, ∀ name,
      name ∈ op.paramNames location ↔ name ∈ op'.paramNames location := h.names_iff
  have pathNames : ∀ name, name ∈ (op.index path method).pathParams ↔
      name ∈ (op'.index path method).pathParams := names "path".toList (by decide)
  have noPath : (op.index path method).pathParams.isEmpty =
      (op'.index path method).pathParams.isEmpty := isEmpty_congr pathNames
  have noQuery : (op.index path method).queryParams.isEmpty =
      (op'.index path method).queryParams.isEmpty :=
    isEmpty_congr (names "query".toList (by decide))
  have noHeaders : (op.index path method).headerParams.isEmpty =
      (op'.index path method).headerParams.isEmpty :=
    isEmpty_congr (names "header".toList (by decide))
  have body : (op.index path method).hasBody = (op'.index path method).hasBody := h.hasBody_eq
  have parameters : methodParameters (op.index path method) =
      methodParameters (op'.index path method) := by
    rw [methodParameters, methodParameters, noPath, noQuery, noHeaders, body]
  have request : requestLines (op.index path method) encode =
      requestLines (op'.index path method) encode := by
    rw [requestLines, requestLines, noQuery, noHeaders, body, operationPath, operationPath,
      pathExpression_congr _ encode pathNames]
    rfl
  have description : methodDescription (op.index path method) =
      methodDescription (op'.index path method) := by
    simp only [methodDescription, verb, Operation.index, h.summary_eq]
  have name : (op.index path method).functionName = (op'.index path method).functionName := by
    simp only [Operation.index, h.operationId_eq]
  have code : requestCode (op.index path method) encode =
      requestCode (op'.index path method) encode := by
    unfold requestCode
    rw [request]
  unfold operationMethod
  rw [parameters, code, description, name]

end Client

namespace Document

variable (encode : Bool)

/-- The tags and the method of an operation object at a path and an HTTP method. -/
def shown (found : Text × Text × Fields) : List Text × Code.Function :=
  (tagsOf found.2.2, Client.operationMethod (recordOf found.1 found.2.1 found.2.2) encode)

/-- An edit of an operation does not show. -/
theorem OperationEdit.shown_eq {raw raw' : Fields} (h : OperationEdit raw raw')
    (path method : Text) :
    shown encode (path, method, raw) = shown encode (path, method, raw') := by
  have tags : tagsOf raw = tagsOf raw' := by
    rw [← filedTags_ofFields, ← filedTags_ofFields, Operation.filedTags, Operation.filedTags,
      h.alike.tags_eq]
  rw [shown, shown, tags]
  exact congrArg _ (Client.operationMethod_congr path method encode h.alike)

/-- The operations of an object with an entry in the middle. -/
theorem operationsAt_obj_insert (path key : Text) (value : Value) (front back : Fields) :
    operationsAt path (.obj (front ++ (key, value) :: back)) =
      operationsAt path (.obj front) ++ operationsAt path (.obj [(key, value)]) ++
        operationsAt path (.obj back) := by
  simp only [operationsAt, Value.objectFields]
  rw [← List.filterMap_append, ← List.filterMap_append, List.append_assoc]
  rfl

/-- An edit of a path item does not show. -/
theorem PathItemEdit.shown_eq {item item' : Fields} (h : PathItemEdit item item') (path : Text) :
    (operationsAt path (.obj item)).map (shown encode) =
      (operationsAt path (.obj item')).map (shown encode) := by
  cases h with
  | @operation front back method raw raw' edit =>
      rw [operationsAt_obj_insert, operationsAt_obj_insert]
      simp only [List.map_append]
      congr 2
      simp only [operationsAt, Value.objectFields, List.filterMap_cons, List.filterMap_nil]
      by_cases known : method ∈ httpMethods
      · simp [known, edit.shown_eq encode path method]
      · simp [known]
  | @unread front back key value unknown =>
      have none : operationsAt path (.obj [(key, value)]) = [] := by
        cases value <;> simp [operationsAt, Value.objectFields, unknown]
      rw [operationsAt_obj_insert, none, List.append_nil, operationsAt, operationsAt, operationsAt,
        ← List.filterMap_append]
      rfl

/-- The operations of paths with one in the middle. -/
theorem flatMap_operationsAt_insert (before after : Fields) (path : Text) (item : Value) :
    ((before ++ (path, item) :: after).flatMap fun (path, item) => operationsAt path item) =
      (before.flatMap fun (path, item) => operationsAt path item) ++ operationsAt path item ++
        after.flatMap fun (path, item) => operationsAt path item := by
  rw [List.flatMap_append, List.flatMap_cons, List.append_assoc]

/-- An edit of a document does not show. -/
theorem DocumentEdit.shown_eq {document edited : Fields} (h : DocumentEdit document edited) :
    (operationsOf document).map (shown encode) = (operationsOf edited).map (shown encode) := by
  cases h with
  | @pathItem front back before after path item item' edit =>
      rcases Ordered.get?_replace "paths".toList "paths".toList
        (Value.obj (before ++ (path, .obj item) :: after))
        (.obj (before ++ (path, .obj item') :: after)) front back with same | ⟨-, found, found'⟩
      · rw [operationsOf, operationsOf, Fields.value_congr same]
      · rw [operationsOf, operationsOf, Fields.value, Fields.value, found, found']
        simp only [Option.getD_some, Value.objectFields, flatMap_operationsAt_insert,
          List.map_append, edit.shown_eq encode path]
  | @unread front back key value unknown =>
      rw [operationsOf, operationsOf,
        Fields.value_congr (Ordered.get?_insert unknown value front back)]

end Document

namespace Generator

open Client

variable {document edited : Fields} {encode : Bool}

/-! ## What a generation reads -/

/-- The groups of a document with the methods of their operations. -/
def methodGroups (document : Fields) (encode : Bool) : List (Text × List Code.Function) :=
  (Document.groups document).map (Prod.map id (List.map fun op => operationMethod op encode))

/-- The groups of methods go by what is shown of the operations. -/
theorem methodGroups_eq (document : Fields) (encode : Bool) :
    methodGroups document encode =
      Ordered.groups (((Document.operationsOf document).map (Document.shown encode)).flatMap
        fun found => found.1.map fun tag => (tag, found.2)) := by
  rw [methodGroups, Document.groups_eq_groups_taggedOperations, ← Ordered.groups_map,
    Document.taggedOperations, List.map_map, List.map_flatMap, List.flatMap_map]
  congr 1
  apply List.flatMap_congr
  rintro ⟨path, method, raw⟩ -
  rw [List.map_map]
  rfl

/-- The module of a tag with given methods. -/
def methodModule (encode : Bool) (pair : PlanEntry × Text × List Code.Function) : Code.File where
  name := pair.1.fileName
  header := [moduleHeader pair.2.1]
  imports := moduleImports encode
  classes := [(pair.1.className, pair.2.2.foldl (fun c f => c.addFunction f)
    (Code.Class.addFunction constructor { name := pair.1.className }))]
  blocks := [⟨1, exportLine pair.1.className⟩]

/-- The module of a group goes by the methods of its operations. -/
theorem moduleOf_eq_methodModule (pair : PlanEntry × Text × List IndexedOperation) :
    moduleOf encode pair =
      methodModule encode
        (Prod.map id (Prod.map id (List.map fun op => operationMethod op encode)) pair) := by
  unfold moduleOf tagModule tagClass methodModule
  simp only [Prod.map_fst, Prod.map_snd, List.foldl_map, id]

/-- The plan goes by the groups of methods. -/
theorem plan_congr (h : methodGroups document encode = methodGroups edited encode) :
    (start document encode).generate.plan = (start edited encode).generate.plan := by
  have calls : ∀ d : Fields, sizes (Document.groups d) =
      (methodGroups d encode).map fun group => (group.1, (group.2.length : Int)) := by
    intro d
    simp [sizes, methodGroups, Function.comp_def]
  rw [plan_generate, plan_generate, calls, calls, h]

/-- The files go by the groups of methods. -/
theorem files_congr (h : methodGroups document encode = methodGroups edited encode) :
    (generateClient document encode).files = (generateClient edited encode).files := by
  have modules : ∀ d : Fields, (entryGroups d encode).map (moduleOf encode) =
      (List.zip (start d encode).generate.plan.entries (methodGroups d encode)).map
        (methodModule encode) := by
    intro d
    rw [entryGroups, methodGroups, List.zip_map_right, List.map_map]
    exact List.map_congr_left fun pair _ => moduleOf_eq_methodModule pair
  rw [files_generate, files_generate, modules, modules, plan_congr h, h]

/-- One edit keeps the groups of methods. -/
theorem methodGroups_congr (h : Document.DocumentEdit document edited) :
    methodGroups document encode = methodGroups edited encode := by
  rw [methodGroups_eq, methodGroups_eq, h.shown_eq encode]

/-- Edits that do not show, any number of them and in either direction, leave the plan
and the files of the client as they are, with either form of path values. -/
theorem ignored_edits_change_nothing
    (edits : Relation.EqvGen Document.DocumentEdit document edited) (encode : Bool) :
    (start edited encode).generate.plan = (start document encode).generate.plan ∧
      (generateClient edited encode).files = (generateClient document encode).files := by
  have same : methodGroups document encode = methodGroups edited encode := by
    induction edits with
    | rel _ _ edit => exact methodGroups_congr edit
    | refl _ => rfl
    | symm _ _ _ ih => exact ih.symm
    | trans _ _ _ _ _ first second => exact first.trans second
  exact ⟨(plan_congr same).symm, (files_congr same).symm⟩

/-- A document with one operation. -/
def singleOperation (raw : Fields) : Fields :=
  [("paths".toList, .obj [("/a/\x7bid\x7d".toList, .obj [("get".toList, .obj raw)])])]

/-- A path parameter. -/
def pathParameter : Fields := [("name".toList, .str "id".toList), ("in".toList, .str "path".toList)]

/-- The same parameter with its fields the other way round. -/
def turnedParameter : Fields :=
  [("in".toList, .str "path".toList), ("name".toList, .str "id".toList)]

/-- An operation with a path parameter and a body. -/
def plainOperation : Fields :=
  [("parameters".toList, .arr [.obj pathParameter]), ("requestBody".toList, .obj [])]

/-- The same operation with an entry that is no object before its parameter, with that
parameter turned and given twice, and with another body and a description. -/
def busyOperation : Fields :=
  [("description".toList, .str "text".toList),
    ("parameters".toList, .arr [.null, .obj turnedParameter, .obj turnedParameter]),
    ("requestBody".toList, .bool false)]

/-- On that operation: five edits lead from the one document to the other, which differ,
and the files are the same. -/
theorem ignored_edits_change_nothing_busy :
    Relation.EqvGen Document.DocumentEdit (singleOperation plainOperation)
        (singleOperation busyOperation) ∧
      plainOperation.length ≠ busyOperation.length ∧
      (generateClient (singleOperation busyOperation) true).files =
        (generateClient (singleOperation plainOperation) true).files := by
  have at_operation : ∀ {raw raw' : Fields}, Document.OperationEdit raw raw' →
      Relation.EqvGen Document.DocumentEdit (singleOperation raw) (singleOperation raw') := by
    intro raw raw' edit
    exact .rel _ _ (.pathItem [] [] [] [] _ (.operation [] [] _ edit))
  have at_parameters : ∀ {entries entries' : List Value}, Document.ParametersEdit entries entries' →
      Relation.EqvGen Document.DocumentEdit
        (singleOperation [("parameters".toList, .arr entries), ("requestBody".toList, .obj [])])
        (singleOperation [("parameters".toList, .arr entries'), ("requestBody".toList, .obj [])]) :=
    fun edit => at_operation (.parameters [] _ edit)
  have turned : Document.Reordered pathParameter turnedParameter :=
    ⟨by decide, List.Perm.swap _ _ _⟩
  have junk : ¬ Document.IsRead .null := by
    rintro ⟨_, _, _, isObject, -⟩
    cases isObject
  have edits : Relation.EqvGen Document.DocumentEdit (singleOperation plainOperation)
      (singleOperation busyOperation) :=
    (at_parameters (.reorder [] [] turned)).trans _ _ _
      ((at_parameters (.duplicate [] _ List.mem_cons_self)).trans _ _ _
        ((at_parameters (.unread [] _ junk)).trans _ _ _
          ((at_operation (.body [_] [] (by simp) rfl
              (rfl : (Value.bool false).isNull = false))).trans _ _ _
            (at_operation (.unread [] _ (.str "text".toList) (by decide))))))
  exact ⟨edits, by decide, (ignored_edits_change_nothing edits true).2⟩

end Generator

end ClientGen
