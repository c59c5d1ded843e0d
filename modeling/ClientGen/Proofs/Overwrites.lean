/-
# Writing a project as a sequence of overwrites

The files of a project go one after the other over what is there.  Names may occur twice:
then the later file goes over the earlier one, so that in the end each path holds the text
of the last file of its name.  Where no directory can be made or no file be opened, writing
stops with the path of that file, and what stands under the names that have not been
written is what stood there before.

Writing the project once more finds every directory and every file in its place, so it ends
in the same way and leaves the tree as it is.  Making directories, though, takes a last name
that is a dot for granted as soon as something is there to look it up in.  A project without
files can so be written to a target that is none, and only the second time is that noticed.
-/
import ClientGen.Proofs.Writing

namespace ClientGen

namespace FileTree

variable {tree later : FileTree} {place : List Text} {path : Text}

/-! ## The file at a path -/

/-- A path leads to a file at a place. -/
def LeadsToFile (tree : FileTree) (path : Text) (place : List Text) : Prop :=
  ∃ octets, tree.locate true path = .ok (.entry place (.file octets))

/-- The file is among the entries of the tree. -/
theorem LeadsToFile.entry? (h : tree.LeadsToFile path place) :
    ∃ octets, tree.locate true path = .ok (.entry place (.file octets)) ∧
      tree.entry? place = some (.file octets) := by
  obtain ⟨octets, located⟩ := h
  obtain ⟨-, -, -, leads⟩ := locate_eq_ok_iff.mp located
  exact ⟨octets, located, leads.isIn.2⟩

/-- What is read at the path are the octets of the file. -/
theorem LeadsToFile.read (h : tree.LeadsToFile path place) {octets : List UInt8}
    (found : tree.entry? place = some (.file octets)) : tree.read path = .ok octets := by
  obtain ⟨before, located, found'⟩ := h.entry?
  cases found.symm.trans found'
  rw [FileTree.read, located]

/-- The path leads to the file in every later tree. -/
theorem LeadsToFile.keeps (h : tree.LeadsToFile path place) (keeps : Keeps tree later) :
    later.LeadsToFile path place := by
  obtain ⟨octets, located, found⟩ := h.entry?
  obtain ⟨now, found⟩ := keeps.file found
  exact ⟨now, keeps.locate_eq located (.file rfl found)⟩

/-- What can be read at a path is a file. -/
theorem leadsToFile_of_read {octets : List UInt8} (h : tree.read path = .ok octets) :
    ∃ place, tree.LeadsToFile path place ∧ tree.entry? place = some (.file octets) := by
  rw [FileTree.read] at h
  split at h
  · cases h
  · rename_i place before located
    cases h
    obtain ⟨_, located', found⟩ := LeadsToFile.entry? ⟨octets, located⟩
    cases located.symm.trans located'
    exact ⟨place, ⟨octets, located⟩, found⟩
  · cases h
  · cases h

/-- More directories change nothing that can be read. -/
theorem AddsDirectories.read_eq (h : AddsDirectories tree later) {octets : List UInt8}
    (read : tree.read path = .ok octets) : later.read path = .ok octets := by
  obtain ⟨place, leads, found⟩ := leadsToFile_of_read read
  exact (leads.keeps h.keeps).read ((h.stays place).of_some found)

/-- Without links, the file at the path of a name in a directory is the one of that name. -/
theorem LeadsToFile.isChild {target name : Text}
    (h : tree.LeadsToFile (Path.join target name) place) (free : tree.LinkFree)
    (some : target ≠ []) (flat : '/' ∉ name) : IsChild tree target name place := by
  obtain ⟨octets, located⟩ := h
  exact free.isChild_of_locate some flat located rfl

end FileTree

namespace Output

open FileTree

variable {target : Text} {tree later last : FileTree} {path text : Text} {place : List Text}
  {written : List (Code.File × List Text)} {files : List Code.File} {file : Code.File}
  {counted : List (Text × Int)} {plan : Plan} {project : Code.Project}

theorem writeText_ne_nullCharacter (noNull : '\x00' ∉ path) (tree : FileTree) (text : Text) :
    (writeText tree path text).2 ≠ some .nullCharacter := by
  have above : '\x00' ∉ Path.directory path := fun among => noNull (Path.mem_of_mem_directory among)
  have failed := makeDirectories_ne_nullCharacter above tree
  rw [writeText]
  split
  · rename_i made e result
    rw [result] at failed
    exact failed
  · split
    · rintro ⟨⟩
    · rename_i e failed
      rintro ⟨⟩
      exact write_ne_nullCharacter noNull _ failed

/-! ## The last file of a name -/

/-- The last file of a name. -/
def lastOf? (name : Text) (files : List Code.File) : Option Code.File :=
  files.reverse.find? (·.name = name)

/-- The last file of a name has it, and no file after it has. -/
theorem lastOf?_eq_some_iff {name : Text} : lastOf? name files = some file ↔
    file.name = name ∧ ∃ before after, files = before ++ file :: after ∧
      ∀ other ∈ after, other.name ≠ name := by
  rw [lastOf?, List.find?_eq_some_iff_append]
  simp only [decide_eq_true_eq, Bool.not_eq_true', decide_eq_false_iff_not]
  refine and_congr_right fun _ => ⟨?_, ?_⟩
  · rintro ⟨after, before, whole, others⟩
    have others' : ∀ other ∈ after.reverse, other.name ≠ name :=
      fun other among => others other (List.mem_reverse.mp among)
    refine ⟨before.reverse, after.reverse, ?_, others'⟩
    rw [← List.reverse_inj, whole]
    simp
  · rintro ⟨before, after, rfl, others⟩
    have others' : ∀ other ∈ after.reverse, other.name ≠ name :=
      fun other among => others other (List.mem_reverse.mp among)
    exact ⟨after.reverse, before.reverse, by simp, others'⟩

/-- There is a last file of each name. -/
theorem exists_lastOf? (among : file ∈ files) : ∃ last, lastOf? file.name files = some last := by
  rw [← Option.isSome_iff_exists, lastOf?, List.find?_isSome]
  exact ⟨file, by simpa using among, by simp⟩

/-! ## Files that are written over -/

/-- The files have gone over what was there, in order: each path holds the text of the last
file of its name, and at every other place there are at most more directories. -/
structure Overwritten (tree later : FileTree) (target : Text) (files : List Code.File) :
    Prop where
  holds : ∀ file ∈ files, ∃ last, lastOf? file.name files = some last ∧
    later.read (Path.join target file.name) = .ok (Utf8.encode last.text)
  stays : ∀ place, (∀ file ∈ files, ¬ later.LeadsToFile (Path.join target file.name) place) →
    Stays tree later place

theorem overwritten_nil (added : AddsDirectories tree later) :
    Overwritten tree later target [] where
  holds file among := by cases among
  stays place _ := added.stays place

/-- Directories may be added before and after. -/
theorem Overwritten.mono {before after : FileTree} (h : Overwritten tree later target files)
    (first : AddsDirectories before tree) (second : AddsDirectories later after) :
    Overwritten before after target files where
  holds file among := by
    obtain ⟨last, isLast, read⟩ := h.holds file among
    exact ⟨last, isLast, second.read_eq read⟩
  stays place apart := by
    have kept : Stays tree later place :=
      h.stays place fun file among leads => apart file among (leads.keeps second.keeps)
    exact ((first.stays place).trans kept).trans (second.stays place)

theorem WritesText.leadsToFile {after : FileTree} (h : WritesText tree path text place after) :
    after.LeadsToFile path place := by
  obtain ⟨-, found⟩ := h.entry?_place
  cases h with
  | put made located at_ =>
      exact ⟨_, ((takes_of_locate located at_).keeps _).locate_eq located (.file at_ found)⟩

/-- The path of each file leads to its place. -/
theorem Writes.leadsToFile (h : Writes target tree written last)
    {entry : Code.File × List Text} (among : entry ∈ written) :
    last.LeadsToFile (Path.join target entry.1.name) entry.2 := by
  induction h with
  | nil tree => cases among
  | cons first rest ih =>
      rcases List.mem_cons.mp among with rfl | inRest
      · exact first.leadsToFile.keeps rest.keeps
      · exact ih inRest

theorem Writes.linkFree (h : Writes target tree written last) (free : tree.LinkFree) :
    last.LinkFree := by
  induction h with
  | nil tree => exact free
  | cons first rest ih => exact ih (first.linkFree free)

/-- The last file that goes to a place is the one that the place holds. -/
theorem Writes.entry?_last {before after : List (Code.File × List Text)}
    {entry : Code.File × List Text} (h : Writes target tree (before ++ entry :: after) last)
    (apart : entry.2 ∉ after.map (·.2)) :
    last.entry? entry.2 = some (.file (Utf8.encode entry.1.text)) := by
  induction before generalizing tree with
  | nil =>
      cases h with
      | cons first rest => exact (rest.stays apart).of_some first.entry?_place.2
  | cons other before ih =>
      cases h with
      | cons _ rest => exact ih rest

/-- Without links, files that are written go over what was there. -/
theorem Writes.overwritten (h : Writes target tree written last) (free : tree.LinkFree)
    (some : target ≠ []) (flat : ∀ entry ∈ written, '/' ∉ entry.1.name) :
    Overwritten tree last target (written.map (·.1)) := by
  have child : ∀ entry ∈ written, IsChild last target entry.1.name entry.2 :=
    fun entry among => h.isChild free some flat among
  refine ⟨?_, ?_⟩
  · intro file among
    obtain ⟨last, isLast⟩ := exists_lastOf? among
    obtain ⟨sameName, before, after, whole, others⟩ := lastOf?_eq_some_iff.mp isLast
    refine ⟨last, isLast, ?_⟩
    rw [← sameName] at others ⊢
    obtain ⟨first, more, rfl, -, same⟩ := List.map_eq_append_iff.mp whole
    obtain ⟨entry, rest, rfl, rfl, rfl⟩ := List.map_eq_cons_iff.mp same
    -- The files after it have other names, and without links these have other places.
    have apart : entry.2 ∉ rest.map (·.2) := by
      intro among
      obtain ⟨other, inRest, place⟩ := List.mem_map.mp among
      have theirs := child other (by simp [inRest])
      rw [place] at theirs
      exact others other.1 (List.mem_map_of_mem inRest)
        (theirs.name_eq (child entry (by simp)))
    exact (h.leadsToFile (by simp)).read (h.entry?_last apart)
  · intro place apart
    apply h.stays
    intro among
    obtain ⟨entry, inWritten, rfl⟩ := List.mem_map.mp among
    exact apart entry.1 (List.mem_map_of_mem inWritten) (h.leadsToFile inWritten)

/-- A name that has not been written holds what it held. -/
theorem Overwritten.entry?_eq (h : Overwritten tree later target files) (keeps : Keeps tree later)
    (free : later.LinkFree) (some : target ≠ []) (flat : ∀ file ∈ files, '/' ∉ file.name)
    {name : Text} (flat' : '/' ∉ name) (new : name ∉ files.map (·.name))
    (there : tree.LeadsToFile (Path.join target name) place ∨
      later.LeadsToFile (Path.join target name) place) :
    later.entry? place = tree.entry? place := by
  have leads : later.LeadsToFile (Path.join target name) place := by
    rcases there with before | after
    · exact before.keeps keeps
    · exact after
  have stays : Stays tree later place := by
    apply h.stays
    intro file among theirs
    have child := leads.isChild free some flat'
    have same := (theirs.isChild free some (flat file among)).name_eq child
    exact new (same ▸ List.mem_map_of_mem among)
  rcases stays with same | ⟨-, isDirectory⟩
  · exact same
  · obtain ⟨octets, -, found⟩ := leads.entry?
    rw [isDirectory] at found
    cases found

/-! ## Where writing stops -/

theorem write_of_made {made : FileTree} (result : tree.makeDirectories target = (made, none))
    (project : Code.Project) (plan : Plan) :
    write tree project target plan = writeFiles target (counts plan) made project.files := by
  rw [write, result]

theorem write_of_not_made {made : FileTree} {e : FileError}
    (result : tree.makeDirectories target = (made, some e)) (project : Code.Project)
    (plan : Plan) :
    write tree project target plan =
      ⟨made, [], .error (errorOf (Failure.noDirectory target) e)⟩ := by
  rw [write, result]

/-- Files are written only where the target was made. -/
theorem made_of_write {paths : List Text}
    (done : (write tree project target plan).result = .ok paths) :
    ∃ made, tree.makeDirectories target = (made, none) := by
  cases result : tree.makeDirectories target with
  | mk made e =>
      cases e with
      | none => exact ⟨made, rfl⟩
      | some e =>
          rw [write_of_not_made result] at done
          cases done

/-- Files that could all be written have their places. -/
theorem writes_of_ok {paths : List Text}
    (done : (writeFiles target counted tree files).result = .ok paths) :
    paths = files.map (fun file => Path.join target file.name) ∧
      ∃ written, files = written.map (·.1) ∧
        Writes target tree written (writeFiles target counted tree files).tree := by
  rcases writeFiles_cases target counted tree files with
    ⟨written, same, writes, all⟩ | ⟨_, _, _, _, _, -, -, -, failed⟩
  · exact ⟨Except.ok.inj (done.symm.trans all), written, same, writes⟩
  · rw [failed] at done
    cases done

/-- Writing goes well where the first file is written and the others are after it. -/
theorem exists_ok_cons {rest : List Code.File} {next : FileTree}
    (first : writeText tree (Path.join target file.name) file.text = (next, none))
    (others : ∃ paths, (writeFiles target counted next rest).result = .ok paths) :
    ∃ paths, (writeFiles target counted tree (file :: rest)).result = .ok paths := by
  obtain ⟨paths, done⟩ := others
  refine ⟨Path.join target file.name :: paths, ?_⟩
  rw [writeFiles_cons_of_ok first]
  dsimp only
  rw [done]
  rfl

/-- Writing files goes well, or it stops at one of them with those before it written. -/
theorem writeFiles_stops (target : Text) (counted : List (Text × Int)) (tree : FileTree)
    (files : List Code.File) :
    (∃ paths, (writeFiles target counted tree files).result = .ok paths) ∨
      ∃ before file rest e, files = before ++ file :: rest ∧
        (∃ paths, (writeFiles target counted tree before).result = .ok paths) ∧
        (writeText (writeFiles target counted tree before).tree (Path.join target file.name)
          file.text).2 = some e := by
  induction files generalizing tree with
  | nil => exact Or.inl ⟨[], rfl⟩
  | cons file files ih =>
      cases result : writeText tree (Path.join target file.name) file.text with
      | mk next e =>
          cases e with
          | some e => exact Or.inr ⟨[], file, files, e, rfl, ⟨[], rfl⟩, congrArg Prod.snd result⟩
          | none =>
              rcases ih next with done | ⟨before, failing, rest, e, rfl, done, failed⟩
              · exact Or.inl (exists_ok_cons result done)
              · refine Or.inr
                  ⟨file :: before, failing, rest, e, rfl, exists_ok_cons result done, ?_⟩
                rw [writeFiles_cons_of_ok result]
                exact failed

/-- The project without the file and those after it is written, but then the directories of
the file cannot be made or its path not be opened. -/
def StopsAt (tree : FileTree) (project : Code.Project) (target : Text) (plan : Plan)
    (before : List Code.File) (file : Code.File) (fault : FileFault) : Prop :=
  let first := write tree { project with files := before } target plan
  (∃ paths, first.result = .ok paths) ∧
    (writeText first.tree (Path.join target file.name) file.text).2 = some (.fault fault)

/-- An error of the file system at a path without null characters is a fault. -/
theorem fault_of_ne_nullCharacter {e : FileError} (noNull : some e ≠ some .nullCharacter) :
    ∃ fault, e = .fault fault := by
  cases e with
  | fault fault => exact ⟨fault, rfl⟩
  | nullCharacter => exact absurd rfl noNull

/-- Without null characters, the target is not made, or writing stops at a file, or it goes
well. -/
theorem write_stops (tree : FileTree) (plan : Plan) (noNull : '\x00' ∉ target)
    (noNulls : ∀ file ∈ project.files, '\x00' ∉ file.name) :
    (∃ fault, (tree.makeDirectories target).2 = some (.fault fault)) ∨
      (∃ before file rest fault, project.files = before ++ file :: rest ∧
        StopsAt tree project target plan before file fault) ∨
      ∃ paths, (write tree project target plan).result = .ok paths := by
  cases result : tree.makeDirectories target with
  | mk made e =>
      cases e with
      | some e =>
          have failed := makeDirectories_ne_nullCharacter noNull tree
          rw [result] at failed
          obtain ⟨fault, rfl⟩ := fault_of_ne_nullCharacter failed
          exact Or.inl ⟨fault, rfl⟩
      | none =>
          rcases writeFiles_stops target (counts plan) made project.files with
            ⟨paths, done⟩ | ⟨before, file, rest, e, whole, done, failed⟩
          · refine Or.inr (Or.inr ⟨paths, ?_⟩)
            rw [write_of_made result]
            exact done
          · have among : file ∈ project.files := by simp [whole]
            have noNull' : '\x00' ∉ Path.join target file.name := by
              intro inPath
              rcases Path.mem_of_mem_join inPath with inTarget | inName | slash
              · exact noNull inTarget
              · exact noNulls file among inName
              · cases slash
            have isFault := writeText_ne_nullCharacter noNull'
              (writeFiles target (counts plan) made before).tree file.text
            rw [failed] at isFault
            obtain ⟨fault, rfl⟩ := fault_of_ne_nullCharacter isFault
            refine Or.inr (Or.inl ⟨before, file, rest, fault, whole, ?_⟩)
            rw [StopsAt, write_of_made result]
            exact ⟨done, failed⟩

/-! ## Projects -/

/-- What has happened where a project is written: the target was made, and its files have
their places. -/
theorem writes_of_write {paths : List Text}
    (done : (write tree project target plan).result = .ok paths) :
    paths = project.files.map (fun file => Path.join target file.name) ∧ target ≠ [] ∧
      ∃ made written, tree.makeDirectories target = (made, none) ∧
        project.files = written.map (·.1) ∧
        Writes target made written (write tree project target plan).tree := by
  obtain ⟨made, result⟩ := made_of_write done
  have some : target ≠ [] := by
    rintro rfl
    exact makeDirectories_nil tree (congrArg Prod.snd result)
  rw [write_of_made result] at done ⊢
  obtain ⟨same, written, files, writes⟩ := writes_of_ok done
  exact ⟨same, some, made, written, result, files, writes⟩

/-- Without links, a project that is written goes over what was there, and no link comes to
be. -/
theorem overwritten_of_write (free : tree.LinkFree)
    (flat : ∀ file ∈ project.files, '/' ∉ file.name) {paths : List Text}
    (done : (write tree project target plan).result = .ok paths) :
    let later := (write tree project target plan).tree
    Overwritten tree later target project.files ∧ Keeps tree later ∧ later.LinkFree := by
  intro later
  obtain ⟨-, some, made, written, result, files, writes⟩ := writes_of_write done
  have added := addsDirectories_of_makeDirectories result
  have flat' : ∀ entry ∈ written, '/' ∉ entry.1.name :=
    fun entry among => flat _ (files ▸ List.mem_map_of_mem among)
  have inOrder := writes.overwritten (added.linkFree free) some flat'
  rw [← files] at inOrder
  exact ⟨inOrder.mono added (.refl _), added.keeps.trans writes.keeps,
    writes.linkFree (added.linkFree free)⟩

/-- Where writing stops, the tree is the one of the files before with more directories at
most, and the failure names the path. -/
theorem write_of_stopsAt {before rest : List Code.File} {fault : FileFault}
    (whole : project.files = before ++ file :: rest)
    (stops : StopsAt tree project target plan before file fault) :
    let written := write tree project target plan
    written.result = .error (.failure (.unwritable (Path.join target file.name) fault)) ∧
      AddsDirectories (write tree { project with files := before } target plan).tree
        written.tree := by
  intro written
  obtain ⟨⟨paths, done⟩, failed⟩ := stops
  obtain ⟨made, result⟩ := made_of_write done
  rw [write_of_made result] at done failed ⊢
  have whole' : written = writeFiles target (counts plan) made (before ++ file :: rest) := by
    rw [← whole]
    exact write_of_made result project plan
  rcases writeText_cases (writeFiles target (counts plan) made before).tree
    (Path.join target file.name) file.text with ⟨_, _, -, ok⟩ | ⟨after, e, added, stopped⟩
  · rw [ok] at failed
    cases failed
  · rw [stopped] at failed
    cases failed
    rw [whole', writeFiles_append]
    dsimp only at done ⊢
    rw [done, writeFiles_cons_of_error stopped]
    exact ⟨rfl, added⟩

/-- Without links, a target that was made for a file is a directory; without files it is one
unless its last name is a dot. -/
theorem hasDirectory_of_write (free : tree.LinkFree)
    (flat : ∀ file ∈ project.files, '/' ∉ file.name) {paths : List Text}
    (done : (write tree project target plan).result = .ok paths)
    (proper : project.files ≠ [] ∨ (cutLast target).2 ≠ ['.']) :
    (write tree project target plan).tree.hasDirectory target := by
  obtain ⟨-, some, made, written, result, files, writes⟩ := writes_of_write done
  have added := addsDirectories_of_makeDirectories result
  cases written with
  | nil =>
      have noFiles : project.files = [] := files
      have there := free.hasDirectory_of_makeDirectories (proper.resolve_left (absurd noFiles))
        result
      exact writes.keeps.hasDirectory there
  | cons entry rest =>
      have flat' : ∀ entry' ∈ entry :: rest, '/' ∉ entry'.1.name :=
        fun entry' among => flat _ (files ▸ List.mem_map_of_mem among)
      obtain ⟨dir, located, -⟩ :=
        writes.isChild (added.linkFree free) some flat' List.mem_cons_self
      exact hasDirectory_iff.mpr ⟨dir, located⟩

/-- Where the target is a directory, writing once more changes nothing. -/
theorem write_again {paths : List Text}
    (done : (write tree project target plan).result = .ok paths)
    (there : (write tree project target plan).tree.hasDirectory target) (plan' : Plan) :
    let again := write (write tree project target plan).tree project target plan'
    again.result = .ok paths ∧ again.tree = (write tree project target plan).tree := by
  intro again
  obtain ⟨same, -, made, written, -, files, writes⟩ := writes_of_write done
  obtain ⟨next, result⟩ := writes.again (.refl _) (counts plan')
  rw [writes.puts_eq, ← files] at next
  rw [← files] at result
  have same' : again = writeFiles target (counts plan') (write tree project target plan).tree
      project.files := write_of_made (makeDirectories_of_hasDirectory there) project plan'
  rw [same', next, result, same, files, List.map_map]
  exact ⟨rfl, rfl⟩

/-- How a project is written to a tree without links.  A target that cannot be made is
the path of the failure.  A file that cannot be written is, and then the files before it
have gone over what was there, while a name that none of them has holds what it held.
Otherwise the paths of all files are given, and all have gone over what was there; so once
more they do, unless there are none and the target, whose last name is a dot, is no
directory.  One of the three happens. -/
theorem write_overwrites_in_order (free : tree.LinkFree)
    (named : ∀ file ∈ project.files, '/' ∉ file.name ∧ '\x00' ∉ file.name)
    (noNull : '\x00' ∉ target) (plan : Plan) :
    let written := write tree project target plan
    (∀ fault, (tree.makeDirectories target).2 = some (.fault fault) →
        written.result = .error (.failure (.noDirectory target fault)) ∧
          Overwritten tree written.tree target []) ∧
      (∀ before file rest fault, project.files = before ++ file :: rest →
        StopsAt tree project target plan before file fault →
          written.result = .error (.failure
            (.unwritable (Path.join target file.name) fault)) ∧
          Overwritten tree written.tree target before ∧
          ∀ other ∈ file :: rest, other.name ∉ before.map (·.name) → ∀ place,
            tree.LeadsToFile (Path.join target other.name) place ∨
              written.tree.LeadsToFile (Path.join target other.name) place →
            written.tree.entry? place = tree.entry? place) ∧
      (∀ paths, written.result = .ok paths →
        paths = project.files.map (fun file => Path.join target file.name) ∧
          Overwritten tree written.tree target project.files ∧
          ((project.files = [] → (cutLast target).2 = ['.'] →
              written.tree.hasDirectory target) →
            ∀ plan', let again := write written.tree project target plan'
              again.result = .ok paths ∧ again.tree = written.tree)) ∧
      ((∃ fault, (tree.makeDirectories target).2 = some (.fault fault)) ∨
        (∃ before file rest fault, project.files = before ++ file :: rest ∧
          StopsAt tree project target plan before file fault) ∨
        ∃ paths, written.result = .ok paths) := by
  intro written
  have flat : ∀ file ∈ project.files, '/' ∉ file.name := fun file among => (named file among).1
  refine ⟨fun fault failed => ?_, fun before file rest fault whole stops => ?_,
    fun paths done => ?_, write_stops tree plan noNull fun file among => (named file among).2⟩
  · have result : tree.makeDirectories target =
        ((tree.makeDirectories target).1, some (.fault fault)) := Prod.ext rfl failed
    have added := addsDirectories_of_makeDirectories result
    have stopped : written = ⟨_, [], _⟩ := write_of_not_made result project plan
    rw [stopped]
    exact ⟨rfl, overwritten_nil added⟩
  · have ⟨⟨paths, done⟩, _⟩ := stops
    obtain ⟨failed, added⟩ := write_of_stopsAt whole stops
    have flat' : ∀ file ∈ before, '/' ∉ file.name :=
      fun file among => flat file (whole ▸ List.mem_append_left _ among)
    obtain ⟨inOrder, keeps, free'⟩ := overwritten_of_write free flat' done
    have inOrder := inOrder.mono (.refl tree) added
    obtain ⟨-, some, -⟩ := writes_of_write done
    refine ⟨failed, inOrder, fun other among new place there => ?_⟩
    have flatOther : '/' ∉ other.name := flat other (whole ▸ List.mem_append_right _ among)
    exact inOrder.entry?_eq (keeps.trans added.keeps) (added.linkFree free') some flat' flatOther
      new there
  · obtain ⟨same, -⟩ := writes_of_write done
    refine ⟨same, (overwritten_of_write free flat done).1, fun corner plan' => ?_⟩
    refine write_again done ?_ plan'
    by_cases noFiles : project.files = []
    · by_cases dot : (cutLast target).2 = ['.']
      · exact corner noFiles dot
      · exact hasDirectory_of_write free flat done (Or.inr dot)
    · exact hasDirectory_of_write free flat done (Or.inl noFiles)

/-- A directory with two files and a directory between them. -/
def crowdedTree : FileTree where
  entries :=
    [(["out".toList], .directory),
      (["out".toList, "a.py".toList], .file (Utf8.encode "old")),
      (["out".toList, "b.py".toList], .directory),
      (["out".toList, "c.py".toList], .file (Utf8.encode "kept"))]

/-- Two files of one name, one by the name of the directory, and one more. -/
def crowdedProject : Code.Project where
  name := "client"
  files := [{ name := "a.py", header := ["# 1"] }, { name := "a.py", header := ["# 2"] },
    { name := "b.py" }, { name := "c.py" }]

theorem linkFree_crowdedTree : crowdedTree.LinkFree := by
  intro path target found
  rw [FileTree.entry?] at found
  split at found
  · cases found
  · simp only [crowdedTree, Ordered.get?] at found
    repeat' split at found
    all_goals cases found

/-- There writing stops at the third file.  The second has gone over the first, and what
stands under the name of the fourth is what stood there. -/
theorem write_overwrites_in_order_crowded :
    let written := write crowdedTree crowdedProject "out" {}
    written.result = .error (.failure (.unwritable "out/b.py" ⟨.isDirectory, "out/b.py"⟩)) ∧
      written.tree.read "out/a.py" = .ok (Utf8.encode "# 2\n") ∧
      written.tree.entry? ["out".toList, "c.py".toList] = some (.file (Utf8.encode "kept")) := by
  intro written
  have named : ∀ file ∈ crowdedProject.files, '/' ∉ file.name ∧ '\x00' ∉ file.name := by decide
  obtain ⟨-, stops, -, -⟩ := write_overwrites_in_order linkFree_crowdedTree named
    (show '\x00' ∉ "out".toList by decide) {}
  have stopsAt : StopsAt crowdedTree crowdedProject "out" {}
      [{ name := "a.py", header := ["# 1"] }, { name := "a.py", header := ["# 2"] }]
      { name := "b.py" } ⟨.isDirectory, "out/b.py"⟩ := ⟨⟨_, rfl⟩, rfl⟩
  obtain ⟨failed, inOrder, unwritten⟩ := stops _ _ [{ name := "c.py" }] _ rfl stopsAt
  obtain ⟨last, isLast, read⟩ := inOrder.holds _ List.mem_cons_self
  cases isLast
  refine ⟨failed, read, ?_⟩
  have kept := unwritten { name := "c.py" } (by simp) (by decide) ["out".toList, "c.py".toList]
    (Or.inl ⟨_, rfl⟩)
  rw [kept]
  rfl

/-- A directory with one file. -/
def singleTree : FileTree where
  entries := [(["f".toList], .file [])]

theorem linkFree_singleTree : singleTree.LinkFree := by
  intro path target found
  rw [FileTree.entry?] at found
  split at found
  · cases found
  · simp only [singleTree, Ordered.get?] at found
    split at found <;> cases found

/-- It is not so that every project that was written can be written once more.  One without
files may be written to a dot behind a file, as long as the way to the file is not there. -/
theorem some_target_is_taken_once :
    ¬ ∀ (tree : FileTree) (project : Code.Project) (target : Text) (plan : Plan),
      tree.LinkFree →
      (∀ file ∈ project.files, file.name ≠ [] ∧ '/' ∉ file.name ∧ '\x00' ∉ file.name) →
      '\x00' ∉ target → ∀ paths, (write tree project target plan).result = .ok paths →
        let again := write (write tree project target plan).tree project target plan
        again.result = .ok paths ∧ again.tree = (write tree project target plan).tree := by
  intro always
  have named : ∀ file ∈ (⟨"client", []⟩ : Code.Project).files,
      file.name ≠ [] ∧ '/' ∉ file.name ∧ '\x00' ∉ file.name := by
    intro file among
    cases among
  obtain ⟨done, -⟩ := always singleTree ⟨"client", []⟩ "x/../f/." {} linkFree_singleTree named
    (by decide) [] rfl
  have failed : (write (write singleTree ⟨"client", []⟩ "x/../f/." {}).tree ⟨"client", []⟩
      "x/../f/." {}).result =
      .error (.failure (.noDirectory "x/../f/." ⟨.notDirectory, "x/../f/."⟩)) := rfl
  rw [failed] at done
  cases done

end Output

end ClientGen
