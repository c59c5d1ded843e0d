/-
# A path at the end disturbs nothing

A document that gets one more path at its end keeps the client it had.  Its groups
only grow at their ends, and new groups stand behind them; the plan keeps every
entry with its names and gives the numbers that collisions ask for to the new tags
alone; the module of a tag that the new path does not use stays as it was, and so
does the transport; and the package file imports and exports the new classes behind
the old ones.

The one place where the old part of a plan and the new tags could meet is the count
of an entry.  Counts play no part in the choice of names, so a plan with other counts
goes through a run of registrations in step with the first.
-/
import ClientGen.Proofs.Package

namespace ClientGen

/-! ## Plans with other counts -/

/-- An entry with more operations, as many as are given for its tag. -/
def PlanEntry.recount (more : Text → Int) (e : PlanEntry) : PlanEntry :=
  { e with operationCount := e.operationCount + more e.tag }

namespace Plan

variable (more : Text → Int)

/-- A plan with more operations for its entries. -/
def recount (p : Plan) : Plan := { p with entries := p.entries.map (PlanEntry.recount more) }

/-- Recounting changes what is found for a tag in its count only. -/
theorem find?_recount (tag : Text) (p : Plan) :
    (p.recount more).find? tag = (p.find? tag).map (PlanEntry.recount more) := by
  rw [find?, find?, recount, List.find?_map]
  rfl

/-- The search for a free number goes by the taken names alone. -/
theorem firstFree_recount (p : Plan) (moduleStem classStem : Text) (tries n : Nat) :
    (p.recount more).firstFree moduleStem classStem tries n =
      p.firstFree moduleStem classStem tries n := by
  induction tries generalizing n with
  | zero => rfl
  | succ tries ih =>
      rw [firstFree, firstFree, ih]
      rfl

/-- A new entry of a recounted plan differs in its count only. -/
theorem newEntry_recount (tag : Text) (n : Int) (p : Plan) :
    (p.recount more).newEntry tag (n + more tag) = (p.newEntry tag n).recount more := by
  have number : (p.recount more).freeNumber tag = p.freeNumber tag :=
    firstFree_recount more p _ _ _ _
  rw [newEntry, number]
  rfl

/-- Recounting commutes with adding an entry. -/
theorem add_recount (e : PlanEntry) (p : Plan) :
    (p.recount more).add (e.recount more) = (p.add e).recount more := by
  simp [add, recount, PlanEntry.recount]

/-- Counts play no part in the names that a registration gives. -/
theorem register_recount (tag : Text) (n : Int) (p : Plan) :
    ((p.recount more).register tag (n + more tag)).2 = (p.register tag n).2.recount more := by
  rcases register_cases p tag n with ⟨entry, found, known⟩ | ⟨new, added⟩
  · rw [known, register, find?_recount, found]
    rfl
  · rw [added, register, find?_recount, new, Option.map_none, newEntry_recount]
    exact add_recount more _ p

/-- Counts play no part in the names that a run of registrations gives. -/
theorem registerAll_recount (calls : List (Text × Int)) (p : Plan) :
    (p.recount more).registerAll (calls.map fun call => (call.1, call.2 + more call.1)) =
      (p.registerAll calls).recount more := by
  induction calls generalizing p with
  | nil => rfl
  | cons call rest ih =>
      have later := ih (p.register call.1 call.2).2
      rw [← register_recount] at later
      exact later

end Plan

/-! ## One more path -/

namespace Document

/-- A document with one more path at the end of its paths. -/
def withPath (document : Fields) (path : Text) (item : Value) : Fields :=
  Ordered.put "paths" (.obj ((document.value "paths").objectFields ++ [(path, item)])) document

/-- The operations of a path item, each paired with each of its tags. -/
def taggedAt (path : Text) (item : Value) : List (IndexedOperation × Text) :=
  (operationsAt path item).flatMap fun (path, method, raw) =>
    (tagsOf raw).map fun tag => (recordOf path method raw, tag)

/-- The tags among pairs that a document does not have, in the order of their first
occurrence. -/
def newTags (document : Fields) (added : List (IndexedOperation × Text)) : List Text :=
  Ordered.added ((groups document).map (·.1)) (added.map (·.2))

/-- A group with the operations that further pairs hold for its tag. -/
def grow (added : List (IndexedOperation × Text)) (group : Text × List IndexedOperation) :
    Text × List IndexedOperation :=
  (group.1, group.2 ++ operationsWith group.1 added)

/-- The groups of the tags that a document does not have. -/
def newGroups (document : Fields) (added : List (IndexedOperation × Text)) :
    List (Text × List IndexedOperation) :=
  (newTags document added).map fun tag => (tag, operationsWith tag added)

variable (document : Fields) (path : Text) (item : Value)

/-- What stands under the paths of the extended document. -/
theorem value_paths_withPath :
    (withPath document path item).value "paths" =
      .obj ((document.value "paths").objectFields ++ [(path, item)]) := by
  rw [withPath, Fields.value, Ordered.get?_put, if_pos rfl]
  rfl

/-- The new path's operations stand behind all others. -/
theorem taggedOperations_withPath :
    taggedOperations (withPath document path item) =
      taggedOperations document ++ taggedAt path item := by
  rw [taggedOperations, operationsOf, value_paths_withPath, Value.objectFields,
    List.flatMap_append, List.flatMap_append, List.flatMap_singleton]
  rfl

/-- The operations of a tag among more pairs. -/
theorem operationsWith_append (tag : Text) (pairs added : List (IndexedOperation × Text)) :
    operationsWith tag (pairs ++ added) = operationsWith tag pairs ++ operationsWith tag added := by
  rw [operationsWith, List.filter_append, List.map_append]
  rfl

/-- A tag that no pair has holds no operations. -/
theorem operationsWith_eq_nil {tag : Text} {pairs : List (IndexedOperation × Text)}
    (h : tag ∉ pairs.map (·.2)) : operationsWith tag pairs = [] := by
  rw [operationsWith, List.map_eq_nil_iff, List.filter_eq_nil_iff]
  intro pair among same
  have same : pair.2 = tag := by simpa using same
  exact h (same ▸ List.mem_map_of_mem among)

/-- The groups of the extended document: those of the document, grown at their ends,
and behind them those of new tags. -/
theorem groups_withPath :
    groups (withPath document path item) =
      (groups document).map (grow (taggedAt path item)) ++
        newGroups document (taggedAt path item) := by
  have known : newTags document (taggedAt path item) =
      Ordered.added ((taggedOperations document).map (·.2)) ((taggedAt path item).map (·.2)) := by
    apply Ordered.added_congr
    intro tag
    rw [tags_groups, Ordered.mem_distinct]
  rw [groups_eq_map (withPath document path item), taggedOperations_withPath, List.map_append,
    Ordered.distinct_append, List.map_append]
  congr 1
  · rw [groups_eq_map, List.map_map]
    apply List.map_congr_left
    intro tag _
    simp only [Function.comp_apply, grow, operationsWith_append]
  · rw [newGroups, known]
    apply List.map_congr_left
    intro tag among
    have unknown := (Ordered.mem_added.mp among).2
    rw [operationsWith_append, operationsWith_eq_nil unknown, List.nil_append]

/-- The tags of the extended document. -/
theorem tags_groups_withPath :
    (groups (withPath document path item)).map (·.1) =
      (groups document).map (·.1) ++ newTags document (taggedAt path item) := by
  rw [groups_withPath, List.map_append, List.map_map, newGroups, List.map_map]
  simp only [Function.comp_def, grow, List.map_id']

end Document

namespace Code.Project

/-- Where no name occurs twice, every file is found under its name. -/
theorem file?_of_mem {p : Project} (distinct : (p.files.map (·.name)).Nodup) {f : File}
    (among : f ∈ p.files) : p.file? f.name = some f := by
  cases found : p.file? f.name with
  | none =>
      rw [file?, List.find?_eq_none] at found
      exact absurd (decide_eq_true rfl) (found f among)
  | some other =>
      have otherAmong := List.mem_of_find?_eq_some found
      have sameName : other.name = f.name := by simpa using List.find?_some found
      rw [List.inj_on_of_nodup_map distinct otherAmong among sameName]

end Code.Project

/-! ## The package file as a text -/

namespace Client

/-- The package file with the given import lines and exported names before those of
the transport. -/
def packageText (imports names : List Text) : Text :=
  let exports : Text := "__all__ = [" ++
    (names.map fun name => ("'" ++ name ++ "', " : Text)).flatten ++ "*_common_all]"
  Text.joinWith "\n"
      ([packageHeader, []] ++ (imports ++ transportImports) ++ [[], [], exports]) ++ ['\n']

/-- The text of the package file of a sound plan. -/
theorem text_packageFile_eq {plan : Plan} (sound : plan.Sound) :
    (packageFile plan).text = packageText (plan.entries.map importLine) plan.classNames := by
  rw [text_packageFile, packageLines, packageExports_eq sound]
  rfl

end Client

namespace Generator

open Document Client

variable (document : Fields) (path : Text) (item : Value) (encode : Bool)

/-- The number of operations that a path item has for a tag. -/
def uses (path : Text) (item : Value) (tag : Text) : Int :=
  (operationsWith tag (taggedAt path item)).length

/-- The plan of the extended document goes on from the plan of the document with the
new counts. -/
theorem plan_withPath :
    (start (withPath document path item) encode).generate.plan =
      ((start document encode).generate.plan.recount (uses path item)).registerAll
        (sizes (newGroups document (taggedAt path item))) := by
  have calls : sizes ((Document.groups document).map (grow (taggedAt path item))) =
      (sizes (Document.groups document)).map fun call =>
        (call.1, call.2 + uses path item call.1) := by
    simp [sizes, grow, uses]
  rw [plan_generate, plan_generate, groups_withPath, sizes, List.map_append, ← sizes, ← sizes,
    calls, Plan.registerAll_append, ← Plan.registerAll_recount]
  rfl

/-- The entries of the extended document: those of the document with the new counts,
and behind them those of the new tags. -/
theorem entries_withPath :
    ∃ new, (start (withPath document path item) encode).generate.plan.entries =
        (start document encode).generate.plan.entries.map (PlanEntry.recount (uses path item)) ++
          new ∧
      new.map (·.tag) = newTags document (taggedAt path item) := by
  obtain ⟨new, split⟩ := Plan.entries_prefix_registerAll
    ((start document encode).generate.plan.recount (uses path item))
    (sizes (newGroups document (taggedAt path item)))
  rw [← plan_withPath] at split
  have tags := sizes_generate (withPath document path item) encode
  rw [← split, groups_withPath, sizes, List.map_append, List.map_append] at tags
  have before := congrArg List.length (sizes_generate document encode)
  obtain ⟨-, later⟩ := List.append_inj tags (by simpa [Plan.recount, sizes] using before)
  have laterTags := congrArg (List.map Prod.fst) later
  refine ⟨new, split.symm, ?_⟩
  simpa [newGroups, Function.comp_def] using laterTags

/-- The entries of the extended document stand beside its groups as before. -/
theorem entryGroups_withPath :
    (entryGroups document encode).map
        (Prod.map (PlanEntry.recount (uses path item)) (grow (taggedAt path item))) <+:
      entryGroups (withPath document path item) encode := by
  obtain ⟨new, entries, -⟩ := entries_withPath document path item encode
  have lengths := congrArg List.length (sizes_generate document encode)
  rw [entryGroups, entryGroups, entries, groups_withPath,
    List.zip_append (by simpa [sizes] using lengths), List.zip_map]
  exact List.prefix_append _ _

/-- The files of a generation are found under their names. -/
theorem file?_generate {f : Code.File} (among : f ∈ (generateClient document encode).files) :
    (generateClient document encode).file? f.name = some f := by
  exact Code.Project.file?_of_mem (nodup_names_generate document encode) among

/-- The module of a tag that a path item does not use stays as it is. -/
theorem moduleOf_mem_withPath {pair : PlanEntry × Text × List IndexedOperation}
    (h : pair ∈ entryGroups document encode) (unused : pair.2.1 ∉ (taggedAt path item).map (·.2)) :
    moduleOf encode pair ∈ (generateClient (withPath document path item) encode).files := by
  have there := (entryGroups_withPath document path item encode).subset (List.mem_map_of_mem h)
  have same : moduleOf encode
      (Prod.map (PlanEntry.recount (uses path item)) (grow (taggedAt path item)) pair) =
        moduleOf encode pair := by
    simp only [moduleOf, Prod.map_fst, Prod.map_snd, grow, operationsWith_eq_nil unused,
      List.append_nil]
    rfl
  rw [← same]
  exact moduleOf_mem_files there

/-- A path at the end of a document leaves its client as it was.  The tags of the
document stay in front, and its groups grow at their ends; an entry of the plan keeps
its names, and its count grows by the uses that the new path makes of its tag, so the
entry of a tag without such a use stays the same; the new tags have their entries behind
the old ones.  The modules of unused tags and the transport are the same files, and the
package file imports and exports the new classes behind the old ones. -/
theorem appended_path_keeps_client (document : Fields) (path : Text) (item : Value)
    (encode : Bool) :
    let extended := withPath document path item
    let added := taggedAt path item
    let plan := (start document encode).generate.plan
    let plan' := (start extended encode).generate.plan
    let client := generateClient document encode
    let client' := generateClient extended encode
    (Document.groups extended).map (·.1) =
        (Document.groups document).map (·.1) ++ newTags document added ∧
      (∀ group ∈ Document.groups document,
        (group.1, group.2 ++ operationsWith group.1 added) ∈ Document.groups extended) ∧
      (∀ e ∈ plan.entries, e.tag ∉ added.map (·.2) → e ∈ plan'.entries) ∧
      (∀ pair ∈ entryGroups document encode, pair.2.1 ∉ added.map (·.2) →
        client.file? pair.1.fileName = some (moduleOf encode pair) ∧
          client'.file? pair.1.fileName = some (moduleOf encode pair)) ∧
      client.file? "common.py" = some Transport.file ∧
      client'.file? "common.py" = some Transport.file ∧
      ∃ new : List PlanEntry, new.map (·.tag) = newTags document added ∧
        plan'.entries = plan.entries.map (fun e => { e with
          operationCount := e.operationCount + (operationsWith e.tag added).length }) ++ new ∧
        (client.file? "__init__.py").map (·.text) =
          some (packageText (plan.entries.map importLine) plan.classNames) ∧
        (client'.file? "__init__.py").map (·.text) =
          some (packageText (plan.entries.map importLine ++ new.map importLine)
            (plan.classNames ++ new.map (·.className))) := by
  intro extended added plan plan' client client'
  obtain ⟨new, entries, tags⟩ := entries_withPath document path item encode
  have transport : ∀ d : Fields, (generateClient d encode).file? "common.py" =
      some Transport.file := by
    intro d
    apply file?_generate d encode (f := Transport.file)
    rw [files_generate]
    exact List.mem_cons_self
  have package : ∀ d : Fields, (generateClient d encode).file? "__init__.py" =
      some (packageFile (start d encode).generate.plan) := by
    intro d
    apply file?_generate d encode (f := packageFile _)
    rw [files_generate]
    exact List.mem_append_right _ List.mem_cons_self
  refine ⟨tags_groups_withPath document path item, ?_, ?_, ?_, transport _, transport _, new, tags,
    entries, ?_, ?_⟩
  · intro group among
    rw [groups_withPath]
    exact List.mem_append_left _ (List.mem_map_of_mem (f := grow _) among)
  · intro e among unused
    have none : operationsWith e.tag (taggedAt path item) = [] := operationsWith_eq_nil unused
    have same : e.recount (uses path item) = e := by
      simp [PlanEntry.recount, uses, none]
    rw [entries, ← same]
    exact List.mem_append_left _ (List.mem_map_of_mem among)
  · intro pair among unused
    exact ⟨file?_generate document encode (moduleOf_mem_files among),
      file?_generate extended encode (moduleOf_mem_withPath document path item encode among unused)⟩
  · rw [package, Option.map_some, text_packageFile_eq (sound_generate document encode)]
  · rw [package, Option.map_some, text_packageFile_eq (sound_generate extended encode),
      Plan.classNames, entries]
    simp only [List.map_append, List.map_map]
    rfl

/-- A document with one operation under two tags. -/
def twoTags : Fields :=
  [("paths".toList, .obj [("/users".toList, .obj [("get".toList, .obj
    [("tags".toList, .arr [.str "users".toList, .str "orders".toList])])])])]

/-- A path item with an operation under a tag of that document and under one that
collides with it. -/
def collidingItem : Value :=
  .obj [("post".toList, .obj
    [("tags".toList, .arr [.str "Users".toList, .str "users".toList])])]

/-- On the colliding tags: the new tag alone is numbered, the used tag counts one more,
and the module of the unused tag is the same file. -/
theorem appended_path_keeps_client_colliding :
    (start (withPath twoTags "/x" collidingItem) true).generate.plan.entries.map
        (fun e => (e.fileName, e.operationCount)) =
          [("users_api.py".toList, 2), ("orders_api.py".toList, 1), ("users_2_api.py".toList, 1)] ∧
      "orders".toList ∉ (taggedAt "/x" collidingItem).map (·.2) ∧
      ∃ file, (generateClient twoTags true).file? "orders_api.py" = some file ∧
        (generateClient (withPath twoTags "/x" collidingItem) true).file? "orders_api.py" =
          some file := by
  obtain ⟨-, -, -, modules, -⟩ := appended_path_keeps_client twoTags "/x" collidingItem true
  have unused : "orders".toList ∉ (taggedAt "/x" collidingItem).map (·.2) := by decide
  have second : 1 < (entryGroups twoTags true).length := by decide
  refine ⟨by decide, unused, _, modules _ (List.getElem_mem second) unused⟩

end Generator

end ClientGen
