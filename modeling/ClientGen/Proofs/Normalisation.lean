/-
# Reading an operation twice

An operation is read from an object of any shape, put down under the names of its fields,
and read once more together with its method, its path and the name of its method.  Both
readings check every field.

The first never fails, since each value is prepared for its check.  The second meets other
names than the first and values that the first has made.  Here it is shown to be no reading
at all: it never fails either, and it gives back what was put down.  What it needs for that
is that every value the first reading makes is one that reading keeps, a text as itself and
a body that is not null.
-/
import ClientGen.Document.Walk
import ClientGen.Proofs.Ordered

namespace ClientGen

namespace Fields

/-- Two objects that give the same for a key hold the same value under it. -/
theorem value_congr {fields fields' : Fields} {key : Text}
    (h : Ordered.get? key fields = Ordered.get? key fields') :
    fields.value key = fields'.value key := by
  rw [value, value, h]

/-- Two objects that give the same for two keys hold the same value under either name. -/
theorem aliased_congr {fields fields' : Fields} {first second : Text}
    (h : Ordered.get? first fields = Ordered.get? first fields')
    (h' : Ordered.get? second fields = Ordered.get? second fields') :
    fields.aliased first second = fields'.aliased first second := by
  rw [aliased, aliased, Ordered.has, Ordered.has, value_congr h, value_congr h', h]

/-- Of two names the first that occurs decides what is read, where null reads as nothing. -/
theorem read_aliased {α : Type} {read : Value → Option α} (null : read .null = none)
    (first second : Text) (fields : Fields) :
    read (fields.aliased first second) =
      ((Ordered.get? first fields).or (Ordered.get? second fields)).bind read := by
  rw [aliased, Ordered.has, value, value]
  cases Ordered.get? first fields with
  | some v => rfl
  | none =>
      cases Ordered.get? second fields with
      | some v => rfl
      | none => exact null

end Fields

/-! ## Fields that are checked -/

namespace Schema

variable {α : Type} {read : Value → Checked α} {f : Value → α} {standard : α}

/-- A field is read without failure if every value is, where its absence counts as null. -/
theorem withDefault_eq (reads : ∀ v, read v = .ok (f v)) (null : f .null = standard)
    (name : Text) (fields : Fields) :
    withDefault name standard read fields = .ok (f (fields.value name)) := by
  rw [withDefault, Fields.value]
  cases Ordered.get? name fields with
  | none => exact congrArg Except.ok null.symm
  | some v =>
      show (read v).within (.field name) = .ok (f v)
      rw [reads]
      rfl

/-- So is a field with two names. -/
theorem aliasedWithDefault_eq (reads : ∀ v, read v = .ok (f v)) (null : f .null = standard)
    (first second : Text) (fields : Fields) :
    aliasedWithDefault first second standard read fields =
      .ok (f (fields.aliased first second)) := by
  rw [aliasedWithDefault, withDefault_eq reads null, withDefault_eq reads null, Fields.aliased]
  cases hasFirst : Ordered.has first fields with
  | true => simp
  | false =>
      cases hasSecond : Ordered.has second fields with
      | true => simp
      | false =>
          -- there is a value under neither name, so either name gives null
          have absent : ∀ name, Ordered.has name fields = false → fields.value name = .null := by
            intro name missing
            rw [Ordered.has, Option.isSome_eq_false_iff, Option.isNone_iff_eq_none] at missing
            rw [Fields.value, missing]
            rfl
          simp [absent first hasFirst, absent second hasSecond]

/-- All results are there if each is. -/
theorem all_map_ok (l : List α) : Checked.all (l.map .ok) = .ok l := by
  induction l with
  | nil => rfl
  | cons a rest ih =>
      rw [List.map_cons, Checked.all, ih]
      rfl

/-- A list is read without failure if what its items are made of is. -/
theorem listOf_map_eq {β : Type} {make : β → Value} {g : β → α}
    (reads : ∀ b, read (make b) = .ok (g b)) (l : List β) :
    listOf read (.arr (l.map make)) = .ok (l.map g) := by
  have each : ((l.map make).mapIdx fun i v => Checked.within (.item i) (read v)) =
      (l.map g).map .ok := by
    apply List.ext_getElem
    · simp
    · intro i _ _
      simp only [List.getElem_mapIdx, List.getElem_map, reads]
      rfl
  rw [listOf, each, all_map_ok]

end Schema

/-! ## Values that are prepared -/

namespace Value

/-- What is prepared passes its check: a text that is kept, or null in the place of another
value. -/
theorem readOwnText_eq (v : Value) : v.readOwnText = .ok v.ownText? := by
  cases v <;> rfl

theorem readAnyText_eq (v : Value) : v.readAnyText = .ok v.anyText? := by
  cases v <;> rfl

theorem readAny_eq (v : Value) : v.readAny = .ok v.nonNull? := by
  cases v <;> rfl

theorem readTexts_eq (v : Value) : v.readTexts = .ok (v.listItems.filterMap anyText?) := by
  cases v with
  | arr items =>
      have shown : items.filterMap anyText? = (items.filter (! ·.isNull)).map toText := by
        rw [← List.filterMap_eq_map, List.filterMap_filter]
        congr
        funext v
        cases v <;> rfl
      have each : ∀ v : Value, Schema.asText (.str v.toText) = .ok v.toText := fun _ => rfl
      rw [listItems, shown]
      exact Schema.listOf_map_eq each _
  | null | bool _ | int _ | float _ | str _ | obj _ => rfl

theorem readRecords_eq {α : Type} {read : Fields → Checked α} {f : Fields → α}
    (reads : ∀ fields, read fields = .ok (f fields)) (v : Value) :
    v.readRecords read = .ok (v.listItems.map fun entry => f entry.objectFields) := by
  cases v with
  | arr items => exact Schema.listOf_map_eq (fun entry => reads entry.objectFields) items
  | null | bool _ | int _ | float _ | str _ | obj _ => rfl

theorem ownText?_ofText? (t : Option Text) : (ofText? t).ownText? = t := by
  cases t <;> rfl

theorem anyText?_ofText? (t : Option Text) : (ofText? t).anyText? = t := by
  cases t <;> rfl

/-- A value that is not null is kept. -/
theorem nonNull?_getD {v : Option Value} (some : v ≠ some .null) :
    (v.getD .null).nonNull? = v := by
  cases v with
  | none => rfl
  | some v =>
      cases v with
      | null => exact absurd rfl some
      | bool _ | int _ | float _ | str _ | arr _ | obj _ => rfl

/-- What is read as not null is not null. -/
theorem nonNull?_ne_some_null (v : Value) : v.nonNull? ≠ some .null := by
  cases v <;> simp [nonNull?]

end Value

namespace OperationParameter

/-- Reading a parameter never fails. -/
theorem read_eq (fields : Fields) : read fields = .ok (ofFields fields) := by
  have name : Schema.withDefault "name" none Value.readOwnText fields =
      .ok (fields.value "name").ownText? :=
    Schema.withDefault_eq Value.readOwnText_eq rfl _ _
  have location : Schema.aliasedWithDefault "in" "location" none Value.readOwnText fields =
      .ok (fields.aliased "in" "location").ownText? :=
    Schema.aliasedWithDefault_eq Value.readOwnText_eq rfl _ _ _
  rw [read, name, location]
  rfl

/-- A parameter put down is read back. -/
theorem ofFields_toFields (p : OperationParameter) : ofFields p.toFields = p := by
  show OperationParameter.mk (Value.ofText? p.name).ownText? (Value.ofText? p.location).ownText? = p
  rw [Value.ownText?_ofText?, Value.ownText?_ofText?]

end OperationParameter

namespace Operation

/-- Reading an operation never fails. -/
theorem read_eq (fields : Fields) : read fields = .ok (ofFields fields) := by
  have text : ∀ name, Schema.withDefault name none Value.readAnyText fields =
      .ok (fields.value name).anyText? :=
    fun _ => Schema.withDefault_eq Value.readAnyText_eq rfl _ _
  have operationId : Schema.aliasedWithDefault "operationId" "operation_id" none
      Value.readAnyText fields = .ok _ :=
    Schema.aliasedWithDefault_eq Value.readAnyText_eq rfl _ _ _
  have tags : Schema.withDefault "tags" [] Value.readTexts fields = .ok _ :=
    Schema.withDefault_eq Value.readTexts_eq rfl _ _
  have parameters : Schema.withDefault "parameters" []
      (Value.readRecords OperationParameter.read) fields = .ok _ :=
    Schema.withDefault_eq (Value.readRecords_eq OperationParameter.read_eq) rfl _ _
  have requestBody : Schema.aliasedWithDefault "requestBody" "request_body" none
      Value.readAny fields = .ok _ :=
    Schema.aliasedWithDefault_eq Value.readAny_eq rfl _ _ _
  rw [read, operationId, tags, text, text, parameters, requestBody]
  rfl

/-- The names under which an operation looks up its fields. -/
def lookedUp : List Text :=
  ["operationId", "operation_id", "tags", "summary", "description", "parameters",
    "requestBody", "request_body"].map String.toList

/-- Two objects that give the same for the names looked up are the same operation. -/
theorem ofFields_congr {fields fields' : Fields}
    (h : ∀ key ∈ lookedUp, Ordered.get? key fields = Ordered.get? key fields') :
    ofFields fields = ofFields fields' := by
  have tags : fields.value "tags" = fields'.value "tags" :=
    Fields.value_congr (h _ (by decide))
  have summary : fields.value "summary" = fields'.value "summary" :=
    Fields.value_congr (h _ (by decide))
  have description : fields.value "description" = fields'.value "description" :=
    Fields.value_congr (h _ (by decide))
  have parameters : fields.value "parameters" = fields'.value "parameters" :=
    Fields.value_congr (h _ (by decide))
  have operationId : fields.aliased "operationId" "operation_id" =
      fields'.aliased "operationId" "operation_id" :=
    Fields.aliased_congr (h _ (by decide)) (h _ (by decide))
  have requestBody : fields.aliased "requestBody" "request_body" =
      fields'.aliased "requestBody" "request_body" :=
    Fields.aliased_congr (h _ (by decide)) (h _ (by decide))
  simp only [ofFields, operationId, tags, summary, description, parameters, requestBody]

/-- The body of an operation that was read is not null. -/
theorem requestBody_ofFields (fields : Fields) :
    (ofFields fields).requestBody ≠ some .null :=
  Value.nonNull?_ne_some_null _

/-- An operation put down is read back, if its body is not null. -/
theorem ofFields_toFields {op : Operation} (body : op.requestBody ≠ some .null) :
    ofFields op.toFields = op := by
  have tags : (op.tags.map Value.str).filterMap Value.anyText? = op.tags := by
    rw [List.filterMap_map]
    exact List.filterMap_some
  have parameters : (op.parameters.map fun p => Value.obj p.toFields).map
      (fun v => OperationParameter.ofFields v.objectFields) = op.parameters := by
    rw [List.map_map]
    exact (List.map_congr_left fun p _ => p.ofFields_toFields).trans (List.map_id _)
  calc ofFields op.toFields
      = { operationId := (Value.ofText? op.operationId).anyText?
          tags := (op.tags.map Value.str).filterMap Value.anyText?
          summary := (Value.ofText? op.summary).anyText?
          description := (Value.ofText? op.description).anyText?
          parameters := (op.parameters.map fun p => Value.obj p.toFields).map
            fun v => OperationParameter.ofFields v.objectFields
          requestBody := (op.requestBody.getD .null).nonNull? } := rfl
    _ = op := by
      rw [tags, parameters, Value.anyText?_ofText?, Value.anyText?_ofText?,
        Value.anyText?_ofText?, Value.nonNull?_getD body]

/-- The names that are not looked up in an operation but in one that is indexed. -/
def indexNames : List Text :=
  ["method", "path_key", "pathKey", "fn_name", "fnName"].map String.toList

/-- No name is looked up for both. -/
theorem not_mem_indexNames {key : Text} (h : key ∈ lookedUp) : key ∉ indexNames := by
  revert key
  decide

/-- What is added to an operation leaves its own fields as they are. -/
theorem get?_indexedFields (op : Operation) (path method : Text) {key : Text}
    (other : key ∉ indexNames) :
    Ordered.get? key (op.indexedFields path method) = Ordered.get? key op.toFields := by
  have own (name : Text) (among : name ∈ indexNames) : name ≠ key :=
    fun same => other (same ▸ among)
  rw [indexedFields, Ordered.get?_put, if_neg (own _ (by decide)), Ordered.get?_put,
    if_neg (own _ (by decide)), Ordered.get?_put, if_neg (own _ (by decide))]

end Operation

/-! ## Both readings -/

/-- Of an operation put down with what is added to it, the added texts are read as they
are, and its own fields as without them. -/
theorem IndexedOperation.ofFields_indexedFields (op : Operation) (path method : Text) :
    IndexedOperation.ofFields (op.indexedFields path method) =
      .ok { toOperation := Operation.ofFields op.toFields
            method := method
            path := path
            functionName := Naming.functionName op.operationId path method } := by
  have own : Operation.ofFields (op.indexedFields path method) = Operation.ofFields op.toFields :=
    Operation.ofFields_congr fun key among =>
      op.get?_indexedFields path method (Operation.not_mem_indexNames among)
  rw [ofFields, Operation.read_eq, own]
  rfl

/-- Neither reading fails, and the second gives what indexing makes of the first. -/
theorem readIndexed_eq (path method : Text) (raw : Fields) :
    readIndexed path method raw = .ok ((Operation.ofFields raw).index path method) := by
  rw [readIndexed, Operation.read_eq]
  show IndexedOperation.ofFields ((Operation.ofFields raw).indexedFields path method) = _
  rw [IndexedOperation.ofFields_indexedFields,
    Operation.ofFields_toFields (Operation.requestBody_ofFields raw)]
  rfl

/-- Every operation that the walk of a document meets is read twice without failure. -/
theorem Document.readIndexed_operations (document : Fields) :
    (operations document).map (fun (path, method, raw) => readIndexed path method raw) =
      (indexedOperations document).map .ok := by
  rw [indexedOperations, List.map_map]
  exact List.map_congr_left fun (path, method, raw) _ => readIndexed_eq path method raw

/-- Reading an operation is total and idempotent: whatever an object holds, both readings
succeed, the second with the operation of the first, which is the one that indexing gives;
put down once more, it is read as itself.  Its method and its path are the given ones, its
name is the name for them, and what the object holds under the names of these three is of no
account.  Of the two names of a field the first that occurs decides, also with null, and
then nothing is read. -/
theorem readIndexed_total_idempotent (raw : Fields) (path method : Text) :
    ∃ indexed, readIndexed path method raw = .ok indexed ∧
      indexed = (Operation.ofFields raw).index path method ∧
      Operation.read raw = .ok indexed.toOperation ∧
      Operation.read indexed.toOperation.toFields = .ok indexed.toOperation ∧
      (indexed.method = method ∧ indexed.path = path ∧
        indexed.functionName =
          Naming.functionName (Operation.ofFields raw).operationId path method) ∧
      (∀ raw' : Fields, (∀ key, key ∉ Operation.indexNames →
          Ordered.get? key raw = Ordered.get? key raw') →
        readIndexed path method raw' = .ok indexed) ∧
      indexed.operationId = ((Ordered.get? "operationId".toList raw).or
        (Ordered.get? "operation_id".toList raw)).bind Value.anyText? ∧
      indexed.requestBody = ((Ordered.get? "requestBody".toList raw).or
        (Ordered.get? "request_body".toList raw)).bind Value.nonNull? ∧
      indexed.parameters.map (·.location) = (raw.value "parameters").listItems.map fun entry =>
        ((Ordered.get? "in".toList entry.objectFields).or
          (Ordered.get? "location".toList entry.objectFields)).bind Value.ownText? := by
  refine ⟨_, readIndexed_eq path method raw, rfl, Operation.read_eq raw, ?_, ⟨rfl, rfl, rfl⟩, ?_,
    @Fields.read_aliased _ Value.anyText? rfl _ _ raw,
    @Fields.read_aliased _ Value.nonNull? rfl _ _ raw, ?_⟩
  · rw [Operation.read_eq]
    exact congrArg Except.ok (Operation.ofFields_toFields (Operation.requestBody_ofFields raw))
  · intro raw' agree
    have same : Operation.ofFields raw = Operation.ofFields raw' :=
      Operation.ofFields_congr fun key among => agree key (Operation.not_mem_indexNames among)
    rw [readIndexed_eq, same]
  · show List.map _ (List.map _ _) = _
    rw [List.map_map]
    exact List.map_congr_left fun entry _ =>
      @Fields.read_aliased _ Value.ownText? rfl _ _ entry.objectFields

/-- An operation with null under the first name and a value under the second one, with tags
that are no texts, and with values of its own under the names that indexing adds.  The same
operation without the latter is read alike. -/
theorem readIndexed_total_idempotent_aliases :
    let added : Fields := [("method", .str "put"), ("path_key", .int 3), ("pathKey", .null),
      ("fn_name", .arr []), ("fnName", .str "other")]
    let raw : Fields := [("operationId", .null), ("operation_id", .str "unread"),
      ("tags", .arr [.bool true, .null, .int 7]), ("requestBody", .null),
      ("request_body", .obj []), ("parameters", .arr [.str "none",
        .obj [("name", .str "id"), ("location", .str "path"), ("in", .null)],
        .obj [("name", .str "id"), ("location", .str "path")]])]
    ∃ indexed, readIndexed "/a" "get" (added ++ raw) = .ok indexed ∧
      readIndexed "/a" "get" raw = .ok indexed ∧
      (indexed.method, indexed.path, indexed.functionName) =
        ("get".toList, "/a".toList, "get_a".toList) ∧
      indexed.operationId = none ∧ indexed.tags = ["True".toList, "7".toList] ∧
      indexed.requestBody = none ∧
      indexed.parameters.map (·.location) = [none, none, some "path".toList] := by
  intro added raw
  obtain ⟨indexed, read, rfl, -, -, -, others, operationId, requestBody, locations⟩ :=
    readIndexed_total_idempotent (added ++ raw) "/a" "get"
  refine ⟨_, read, others raw ?_, ?_, operationId, ?_, requestBody, locations⟩
  · intro key other
    rw [Ordered.get?_append, Ordered.get?_eq_none other, Option.none_or]
  · decide +kernel
  · decide +kernel

end ClientGen
