/-
# Repeated generation

A generator that has made a client makes the same files again.  Every tag has its entry
by then, and registering a known tag gives the entry and leaves the plan as it is, also
where the tag had got its names from a collision.  So each further run adds the files of
the first once more, and neither looking up a file nor writing the project can tell how
many runs there were.
-/
import ClientGen.Proofs.Generator
import ClientGen.Proofs.Writing

namespace ClientGen

/-! ## Copies of files -/

namespace Code.Project

/-- Among copies of files the first copy is found. -/
theorem find?_replicate (files : List File) (times : Nat) (kind : File → Bool) :
    (List.replicate (times + 1) files).flatten.find? kind = files.find? kind := by
  induction times with
  | zero => simp
  | succ times ih =>
      rw [List.replicate_succ, List.flatten_cons, List.find?_append, ih, Option.or_self]

end Code.Project

/-- Writing several copies of files leaves the tree that writing one leaves, and fails as
that does. -/
theorem Output.write_repeated (tree : FileTree) (once repeated : Code.Project) (target : Text)
    (plan : Plan) (times : Nat)
    (copies : repeated.files = (List.replicate (times + 1) once.files).flatten) :
    (Output.write tree repeated target plan).tree = (Output.write tree once target plan).tree ∧
      ∀ e, (Output.write tree repeated target plan).result = .error e ↔
        (Output.write tree once target plan).result = .error e := by
  rw [Output.write, Output.write, copies]
  cases tree.makeDirectories target with
  | mk made e =>
      cases e with
      | some e => exact ⟨rfl, fun _ => Iff.rfl⟩
      | none => exact writeFiles_repeated target (counts plan) made once.files times

namespace Generator

variable {document : Fields} {encode : Bool}

/-- A generator with more files. -/
def addFiles (files : List Code.File) (g : Generator) : Generator :=
  { g with project := { g.project with files := g.project.files ++ files } }

theorem addFiles_nil (g : Generator) : g.addFiles [] = g := by
  rw [addFiles, List.append_nil]

theorem addFiles_addFiles (files more : List Code.File) (g : Generator) :
    (g.addFiles files).addFiles more = g.addFiles (files ++ more) := by
  rw [addFiles, addFiles, addFiles, List.append_assoc]

/-! ## Known tags -/

/-- The entry beside a group is the one that its tag has. -/
theorem find?_of_mem_entryGroups {pair : PlanEntry × Text × List IndexedOperation}
    (among : pair ∈ entryGroups document encode) :
    (start document encode).generate.plan.find? pair.2.1 = some pair.1 := by
  have tags := congrArg (List.map Prod.fst) (sizes_generate document encode)
  have lengths := congrArg List.length (sizes_generate document encode)
  rw [sizes, List.map_map, List.map_map] at tags
  rw [sizes, List.length_map, List.length_map] at lengths
  have beside : (entryGroups document encode).map (PlanEntry.tag ∘ Prod.fst) =
      (entryGroups document encode).map (Prod.fst ∘ Prod.snd) := by
    rw [← List.map_map, ← List.map_map, entryGroups, List.map_fst_zip lengths.le,
      List.map_snd_zip lengths.ge]
    exact tags
  have same : pair.1.tag = pair.2.1 := List.map_inj_left.mp beside pair among
  rw [← same]
  exact (sound_generate document encode).find?_tag (List.of_mem_zip among).1

/-- Adding a tag that has an entry adds its module and leaves the plan as it is. -/
theorem addTag_of_find? {g : Generator} {pair : PlanEntry × Text × List IndexedOperation}
    (known : g.plan.find? pair.2.1 = some pair.1) :
    g.addTag pair.2 = g.addFiles [moduleOf g.encode pair] := by
  rw [addTag, Plan.register, known]
  rfl

/-- Adding tags that have entries adds their modules. -/
theorem foldl_addTag_of_find? {g : Generator}
    {pairs : List (PlanEntry × Text × List IndexedOperation)}
    (known : ∀ pair ∈ pairs, g.plan.find? pair.2.1 = some pair.1) :
    (pairs.map (·.2)).foldl addTag g = g.addFiles (pairs.map (moduleOf g.encode)) := by
  induction pairs generalizing g with
  | nil => exact (addFiles_nil g).symm
  | cons pair rest ih =>
      have later : ∀ other ∈ rest,
          (g.addFiles [moduleOf g.encode pair]).plan.find? other.2.1 = some other.1 :=
        fun other among => known other (List.mem_cons_of_mem _ among)
      rw [List.map_cons, List.foldl_cons, addTag_of_find? (known pair List.mem_cons_self),
        ih later, addFiles_addFiles]
      rfl

/-- A run of a generator whose plan is that of its document adds the files of the
document's client. -/
theorem generate_of_plan {g : Generator}
    (planned : g.plan = (start g.document g.encode).generate.plan) :
    g.generate = g.addFiles (generateClient g.document g.encode).files := by
  have groups : (entryGroups g.document g.encode).map (·.2) = Document.groups g.document := by
    have lengths := length_entryGroups g.document g.encode
    rw [entryGroups, List.length_zip] at lengths
    exact List.map_snd_zip (by omega)
  have known : ∀ pair ∈ entryGroups g.document g.encode,
      (g.addFiles [Transport.file]).plan.find? pair.2.1 = some pair.1 := by
    intro pair among
    exact planned ▸ find?_of_mem_entryGroups among
  have modules := foldl_addTag_of_find? known
  rw [groups, addFiles_addFiles] at modules
  have unfolded : g.generate =
      let tagged := (Document.groups g.document).foldl addTag (g.addFiles [Transport.file])
      tagged.addFiles [Client.packageFile tagged.plan] := rfl
  rw [unfolded, modules]
  dsimp only
  rw [addFiles_addFiles, files_generate, ← planned]
  rfl

/-- Further runs of such a generator add further copies of the files. -/
theorem generateTimes_of_plan {g : Generator}
    (planned : g.plan = (start g.document g.encode).generate.plan) (times : Nat) :
    g.generateTimes times =
      g.addFiles (List.replicate times (generateClient g.document g.encode).files).flatten := by
  induction times generalizing g with
  | zero => exact (addFiles_nil g).symm
  | succ times ih =>
      have next := ih (g := g.addFiles (generateClient g.document g.encode).files) planned
      rw [generateTimes, generate_of_plan planned, next, addFiles_addFiles, List.replicate_succ,
        List.flatten_cons]
      rfl

/-- A run keeps the document and the form of path values. -/
theorem document_generate (g : Generator) :
    g.generate.document = g.document ∧ g.generate.encode = g.encode := by
  have kept : ∀ (groups : List (Text × List IndexedOperation)) (g : Generator),
      (groups.foldl addTag g).document = g.document ∧
        (groups.foldl addTag g).encode = g.encode := by
    intro groups
    induction groups with
    | nil => exact fun g => ⟨rfl, rfl⟩
    | cons group rest ih => exact fun g => ih (g.addTag group)
  exact kept (Document.groups g.document) _

/-- Generating any number of times after the first changes nothing that can be seen of a
client.  The plan stays, with its entries, names and counts; the files are so many copies
of the first ones; a name is looked up to the same file; and in every tree, writing the
project to any directory leaves the tree that writing it after one run leaves, and fails
where and as that does. -/
theorem repeated_generation_keeps_client (document : Fields) (encode : Bool) (times : Nat) :
    let once := (start document encode).generate
    let repeated := (start document encode).generateTimes (times + 1)
    repeated.plan = once.plan ∧
      repeated.project.files = (List.replicate (times + 1) once.project.files).flatten ∧
      (∀ name, repeated.project.file? name = once.project.file? name) ∧
      ∀ tree target plan,
        (Output.write tree repeated.project target plan).tree =
            (Output.write tree once.project target plan).tree ∧
          ∀ e, (Output.write tree repeated.project target plan).result = .error e ↔
            (Output.write tree once.project target plan).result = .error e := by
  intro once repeated
  have document_eq : once.document = document := (document_generate _).1
  have encode_eq : once.encode = encode := (document_generate _).2
  have planned : once.plan = (start once.document once.encode).generate.plan := by
    rw [document_eq, encode_eq]
  have further : repeated = once.addFiles (List.replicate times once.project.files).flatten := by
    have run := generateTimes_of_plan planned times
    rw [document_eq, encode_eq] at run
    exact run
  have copies : repeated.project.files =
      (List.replicate (times + 1) once.project.files).flatten := by
    rw [further, List.replicate_succ, List.flatten_cons]
    rfl
  refine ⟨by rw [further]; rfl, copies, ?_, ?_⟩
  · intro name
    rw [Code.Project.file?, copies]
    exact Code.Project.find?_replicate once.project.files times _
  · intro tree target plan
    exact Output.write_repeated tree once.project repeated.project target plan times copies

end Generator

end ClientGen
