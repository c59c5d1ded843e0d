/-
# What a generation makes

A generator that has made nothing yet registers the tags of the groups one after
the other.  They are distinct, so each gets an entry of its own, which holds the
size of its group: entries and groups stand side by side, and so do the modules
made from them.  This is kept by each tag that is added, and from it the files of a
whole generation are read off.
-/
import ClientGen.Client.Generator
import ClientGen.Proofs.Groups
import ClientGen.Proofs.Module
import ClientGen.Proofs.Plan

namespace ClientGen.Generator

variable {document : Fields} {encode : Bool} {groups : List (Text × List IndexedOperation)}

/-- The tags of groups, each with the size of its group. -/
def sizes (groups : List (Text × List IndexedOperation)) : List (Text × Int) :=
  groups.map fun group => (group.1, (group.2.length : Int))

/-- The module of a group by the names of the entry beside it. -/
def moduleOf (encode : Bool) (pair : PlanEntry × Text × List IndexedOperation) : Code.File :=
  Client.tagModule pair.2.1 pair.1.className pair.1.fileName pair.2.2 encode

/-- A generator that started with nothing has made the modules of the given groups
and nothing else since the given files: entries, groups and modules stand side by
side. -/
structure HasMade (encode : Bool) (files : List Code.File)
    (groups : List (Text × List IndexedOperation)) (g : Generator) : Prop where
  encode_eq : g.encode = encode
  sound : g.plan.Sound
  sizes_eq : g.plan.entries.map (fun e => (e.tag, e.operationCount)) = sizes groups
  files_eq : g.project.files = files ++ (List.zip g.plan.entries groups).map (moduleOf encode)

/-- There are as many entries as groups. -/
theorem HasMade.length_entries {files : List Code.File} {g : Generator}
    (h : HasMade encode files groups g) : g.plan.entries.length = groups.length := by
  have lengths := congrArg List.length h.sizes_eq
  simpa [sizes] using lengths

/-- The tags of the entries are those of the groups. -/
theorem HasMade.tags_eq {files : List Code.File} {g : Generator}
    (h : HasMade encode files groups g) : g.plan.tags = groups.map (·.1) := by
  have tags := congrArg (List.map Prod.fst) h.sizes_eq
  simpa [sizes, Plan.tags, Function.comp_def] using tags

/-- A new tag that is added gets an entry and a module behind the others. -/
theorem HasMade.addTag {files : List Code.File} {g : Generator}
    (h : HasMade encode files groups g) {group : Text × List IndexedOperation}
    (new : group.1 ∉ groups.map (·.1)) :
    HasMade encode files (groups ++ [group]) (g.addTag group) := by
  obtain ⟨tag, operations⟩ := group
  let entry := g.plan.newEntry tag operations.length
  have unknown : g.plan.find? tag = none := by
    rw [Plan.find?_eq_none_iff, h.tags_eq]
    exact new
  have registered : g.plan.register tag operations.length = (entry, g.plan.add entry) := by
    rw [Plan.register, unknown]
  have soundAfter := h.sound.register tag operations.length
  have added : g.addTag (tag, operations) =
      { g with
        plan := g.plan.add entry
        project := g.project.addFile (moduleOf encode (entry, tag, operations)) } := by
    simp only [Generator.addTag, registered, h.encode_eq]
    rfl
  rw [added]
  refine ⟨h.encode_eq, ?_, ?_, ?_⟩
  · rw [registered] at soundAfter
    exact soundAfter
  · simp only [Plan.add, List.map_append, h.sizes_eq, List.map_singleton]
    simp [sizes, entry]
  · simp only [Code.Project.addFile, Plan.add, h.files_eq]
    rw [List.zip_append h.length_entries, List.map_append, List.append_assoc]
    rfl

/-- Groups of distinct tags are added one after the other. -/
theorem hasMade_foldl {files : List Code.File} {g : Generator} (h : HasMade encode files [] g)
    (distinct : (groups.map (·.1)).Nodup) :
    HasMade encode files groups (groups.foldl Generator.addTag g) := by
  induction groups using List.reverseRecOn with
  | nil => exact h
  | append_singleton groups group ih =>
      rw [List.map_append, List.map_singleton, List.nodup_append] at distinct
      obtain ⟨before, -, apart⟩ := distinct
      have new : group.1 ∉ groups.map (·.1) := by
        intro among
        exact apart _ among _ List.mem_cons_self rfl
      rw [List.foldl_append]
      exact (ih before).addTag new

/-- What the generation of a document makes: the transport file, the module of each
group by the names of its entry, and the package file. -/
theorem hasMade_generate (document : Fields) (encode : Bool) :
    ∃ g : Generator, HasMade encode [Transport.file] (Document.groups document) g ∧
      (start document encode).generate =
        { g with project := g.project.addFile (Client.packageFile g.plan) } := by
  have begun : HasMade encode [Transport.file] []
      { start document encode with
        project := (start document encode).project.addFile Transport.file } :=
    ⟨rfl, Plan.sound_empty, rfl, rfl⟩
  exact ⟨_, hasMade_foldl begun (Document.nodup_tags_groups document), rfl⟩

/-- Adding tags registers them with the sizes of their groups. -/
theorem plan_foldl_addTag (groups : List (Text × List IndexedOperation)) (g : Generator) :
    (groups.foldl addTag g).plan = g.plan.registerAll (sizes groups) := by
  induction groups generalizing g with
  | nil => rfl
  | cons group rest ih => exact ih (g.addTag group)

/-- The plan of a generation registers the tags of the groups with their sizes. -/
theorem plan_generate (document : Fields) (encode : Bool) :
    (start document encode).generate.plan =
      Plan.registerAll (sizes (Document.groups document)) {} :=
  plan_foldl_addTag (Document.groups document) _

/-- The entries of a generation, each beside the group of its tag. -/
def entryGroups (document : Fields) (encode : Bool) :
    List (PlanEntry × Text × List IndexedOperation) :=
  List.zip (start document encode).generate.plan.entries (Document.groups document)

/-- The files of a generation in order. -/
theorem files_generate (document : Fields) (encode : Bool) :
    (generateClient document encode).files =
      Transport.file :: (entryGroups document encode).map (moduleOf encode) ++
        [Client.packageFile (start document encode).generate.plan] := by
  obtain ⟨g, made, generated⟩ := hasMade_generate document encode
  rw [generateClient, entryGroups, generated]
  simp only [Code.Project.addFile, made.files_eq]
  rfl

/-- The module of each entry is a file. -/
theorem moduleOf_mem_files {pair : PlanEntry × Text × List IndexedOperation}
    (h : pair ∈ entryGroups document encode) :
    moduleOf encode pair ∈ (generateClient document encode).files := by
  rw [files_generate]
  exact List.mem_append_left _ (List.mem_cons_of_mem _ (List.mem_map_of_mem h))

/-- The entries of a generation are of the tags of the groups, with their sizes. -/
theorem sizes_generate (document : Fields) (encode : Bool) :
    (start document encode).generate.plan.entries.map (fun e => (e.tag, e.operationCount)) =
      sizes (Document.groups document) := by
  obtain ⟨g, made, generated⟩ := hasMade_generate document encode
  rw [generated]
  exact made.sizes_eq

/-- No group is left without an entry. -/
theorem length_entryGroups (document : Fields) (encode : Bool) :
    (entryGroups document encode).length = (Document.groups document).length := by
  obtain ⟨g, made, generated⟩ := hasMade_generate document encode
  rw [entryGroups, generated, List.length_zip, made.length_entries, Nat.min_self]

/-- The plan of a generation is sound. -/
theorem sound_generate (document : Fields) (encode : Bool) :
    (start document encode).generate.plan.Sound := by
  obtain ⟨g, made, generated⟩ := hasMade_generate document encode
  rw [generated]
  exact made.sound

/-- The names of an entry are spelled as they should be. -/
theorem spelled_of_mem_entryGroups {pair : PlanEntry × Text × List IndexedOperation}
    (h : pair ∈ entryGroups document encode) :
    Naming.IsModuleName pair.1.moduleName ∧ Naming.IsClassName pair.1.className :=
  (sound_generate document encode).spelled pair.1 (List.of_mem_zip h).1

/-- The operations of a group have the names of their methods. -/
theorem named_of_mem_entryGroups {pair : PlanEntry × Text × List IndexedOperation}
    (h : pair ∈ entryGroups document encode) : ∀ op ∈ pair.2.2, Client.Named op := by
  intro op among
  obtain ⟨path, method, raw, -, -, rfl⟩ :=
    Document.exists_of_mem_group (List.of_mem_zip h).2 among
  rfl

end ClientGen.Generator
