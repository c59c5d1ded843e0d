/-
# What writing does to a file tree

Writing goes through the files in order.  A file is put at the place that its path leads
to once the directories above are there; the first path at which that fails ends the
writing, and all that has happened up to it is files put at their places and directories
added.

From the places a second writing can be told in advance.  The trees in between only keep
what was there, so each path leads to the same place again, no directory is missing any
more, and the same texts go over themselves.
-/
import ClientGen.Output
import ClientGen.Proofs.Directories

namespace ClientGen

namespace FileTree

variable {tree later last : FileTree} {place : List Text}

/-- Puts files at places. -/
def puts (written : List (Code.File × List Text)) (tree : FileTree) : FileTree :=
  written.foldl (fun tree entry => tree.put entry.2 (.file (Utf8.encode entry.1.text))) tree

/-- A tree has files, below the root, at all places of a list. -/
def HasFiles (tree : FileTree) (written : List (Code.File × List Text)) : Prop :=
  ∀ entry ∈ written, entry.2 ≠ [] ∧ ∃ octets, tree.entry? entry.2 = some (.file octets)

/-- A later tree has the files as well. -/
theorem HasFiles.keeps {written : List (Code.File × List Text)} (h : tree.HasFiles written)
    (keeps : Keeps tree later) : later.HasFiles written := by
  intro entry among
  obtain ⟨below, octets, found⟩ := h entry among
  exact ⟨below, keeps.file found⟩

/-- A file that is put at a place with another file to come counts for nothing. -/
theorem puts_put {written : List (Code.File × List Text)} (files : tree.HasFiles written)
    (later_ : place ∈ written.map (·.2)) (entry : List UInt8) :
    puts written (tree.put place (.file entry)) = puts written tree := by
  induction written generalizing tree with
  | nil => cases later_
  | cons first rest ih =>
      obtain ⟨below, octets, found⟩ := files first List.mem_cons_self
      by_cases same : first.2 = place
      · subst same
        simp only [puts, List.foldl_cons, put, Ordered.put_put]
      · -- Another file is put first; the two are put in either order.
        have inRest : place ∈ rest.map (·.2) := by
          rcases List.mem_cons.mp later_ with here | inRest
          · exact absurd here.symm same
          · exact inRest
        obtain ⟨other, among, rfl⟩ := List.mem_map.mp inRest
        obtain ⟨below', octets', found'⟩ := files other (List.mem_cons_of_mem _ among)
        have filesAfter : (tree.put first.2 (.file (Utf8.encode first.1.text))).HasFiles rest :=
          HasFiles.keeps (fun entry among => files entry (List.mem_cons_of_mem _ among))
            ((takes_of_file below found).keeps _)
        rw [puts, List.foldl_cons, ← puts,
          put_comm below below' same _ _ (by simp [found]) (by simp [found'])]
        exact ih filesAfter inRest

end FileTree

namespace Output

open FileTree

variable {target : Text} {tree later last : FileTree} {file : Code.File} {place : List Text}
  {written : List (Code.File × List Text)} {counts : List (Text × Int)}

/-! ## One file -/

/-- A text is written to a path: the directories above are there or can be made, and the
path leads to a place for a file, where the text is put. -/
inductive WritesText (tree : FileTree) (path text : Text) (place : List Text) : FileTree → Prop
  | put {made : FileTree} {found : Place} :
      tree.makeDirectories (Path.directory path) = (made, none) →
      made.locate true path = .ok found → found.filePath? = some place →
      WritesText tree path text place (made.put place (.file (Utf8.encode text)))

/-- Writing a text succeeds, or it fails after it has at most added directories. -/
theorem writeText_cases (tree : FileTree) (path text : Text) :
    (∃ place after, WritesText tree path text place after ∧
        writeText tree path text = (after, none)) ∨
      ∃ after e, AddsDirectories tree after ∧ writeText tree path text = (after, some e) := by
  rw [writeText]
  cases result : tree.makeDirectories (Path.directory path) with
  | mk made e =>
      have added := addsDirectories_of_makeDirectories result
      cases e with
      | some e => exact Or.inr ⟨made, e, added, rfl⟩
      | none =>
          dsimp only
          rw [FileTree.write]
          cases located : made.locate true path with
          | error e => exact Or.inr ⟨made, e, added, rfl⟩
          | ok found =>
              cases found with
              | entry place entry =>
                  cases entry with
                  | file octets => exact Or.inl ⟨place, _, .put result located rfl, rfl⟩
                  | directory => exact Or.inr ⟨made, _, added, rfl⟩
                  | link target => exact Or.inr ⟨made, _, added, rfl⟩
              | vacant place asDirectory =>
                  cases asDirectory with
                  | false => exact Or.inl ⟨place, _, .put result located rfl, rfl⟩
                  | true => exact Or.inr ⟨made, _, added, rfl⟩

variable {path text : Text} {after : FileTree}

/-- The place is below the root and holds the text. -/
theorem WritesText.entry?_place (h : WritesText tree path text place after) :
    place ≠ [] ∧ after.entry? place = some (.file (Utf8.encode text)) := by
  cases h with
  | put made located at_ =>
      have takes := takes_of_locate located at_
      exact ⟨takes.below, by rw [entry?_put takes.below, if_pos rfl]⟩

/-- Elsewhere there are at most more directories. -/
theorem WritesText.stays (h : WritesText tree path text place after) {other : List Text}
    (different : other ≠ place) : Stays tree after other := by
  have below := h.entry?_place.1
  cases h with
  | put made located at_ =>
      rw [Stays, entry?_put below, if_neg different.symm]
      exact (addsDirectories_of_makeDirectories made).stays other

theorem WritesText.keeps (h : WritesText tree path text place after) : Keeps tree after := by
  cases h with
  | put made located at_ =>
      exact (addsDirectories_of_makeDirectories made).keeps.trans
        ((takes_of_locate located at_).keeps _)

/-- In every later tree a text for the same path goes to the same place, and no directory
is missing. -/
theorem WritesText.again (h : WritesText tree path text place after) (keeps : Keeps after later)
    (next : Text) :
    writeText later path next = (later.put place (.file (Utf8.encode next)), none) := by
  obtain ⟨-, found⟩ := h.entry?_place
  obtain ⟨octets, now⟩ := keeps.file found
  cases h with
  | @put made before result located at_ =>
      have keepsMade : Keeps made later := ((takes_of_locate located at_).keeps _).trans keeps
      have some : Path.directory path ≠ [] := by
        intro none
        rw [none] at result
        exact makeDirectories_nil tree (congrArg Prod.snd result)
      have there := keepsMade.hasDirectory
        (hasDirectory_directory located (Place.ne_vacant_of_filePath? at_) some)
      have located := keepsMade.locate_eq located (.file at_ now)
      rw [writeText, makeDirectories_of_hasDirectory there]
      dsimp only
      rw [FileTree.write, located]

/-- No link comes to be. -/
theorem WritesText.linkFree (h : WritesText tree path text place after) (free : tree.LinkFree) :
    after.LinkFree := by
  intro other target found
  by_cases here : other = place
  · subst here
    rw [h.entry?_place.2] at found
    cases found
  · exact (h.stays here).ne_link (free other target) found

/-- Without links the place is the one of the name in the directory. -/
theorem WritesText.isChild {name : Text}
    (h : WritesText tree (Path.join target name) text place after) (free : tree.LinkFree)
    (some : target ≠ []) (flat : '/' ∉ name) : IsChild after target name place := by
  cases h with
  | put result located at_ =>
      have added := addsDirectories_of_makeDirectories result
      have child := (added.linkFree free).isChild_of_locate some flat located at_
      exact child.keeps ((takes_of_locate located at_).keeps _)

/-! ## Several files -/

/-- Files are written in order, each to the place beside it. -/
inductive Writes (target : Text) : FileTree → List (Code.File × List Text) → FileTree → Prop
  | nil (tree : FileTree) : Writes target tree [] tree
  | cons {tree next last : FileTree} {file : Code.File} {place : List Text}
      {rest : List (Code.File × List Text)} :
      WritesText tree (Path.join target file.name) file.text place next →
      Writes target next rest last → Writes target tree ((file, place) :: rest) last

theorem Writes.keeps (h : Writes target tree written last) : Keeps tree last := by
  induction h with
  | nil tree => exact .refl tree
  | cons first _ ih => exact first.keeps.trans ih

/-- Beside the places of the files there are at most more directories. -/
theorem Writes.stays (h : Writes target tree written last) {other : List Text}
    (apart : other ∉ written.map (·.2)) : Stays tree last other := by
  induction h with
  | nil tree => exact Or.inl rfl
  | cons first rest ih =>
      obtain ⟨different, apart⟩ := not_or.mp (List.mem_cons.not.mp apart)
      exact (first.stays different).trans (ih apart)

/-- There are files at all places. -/
theorem Writes.hasFiles (h : Writes target tree written last) : last.HasFiles written := by
  induction h with
  | nil tree => exact fun entry among => by cases among
  | cons first rest ih =>
      intro entry among
      rcases List.mem_cons.mp among with rfl | inRest
      · obtain ⟨below, found⟩ := first.entry?_place
        exact ⟨below, rest.keeps.file found⟩
      · exact ih entry inRest

/-- The last file of a place is the one that the place holds. -/
theorem Writes.entry?_place (h : Writes target tree written last)
    (once : (written.map (·.2)).Nodup) {entry : Code.File × List Text} (among : entry ∈ written) :
    last.entry? entry.2 = some (.file (Utf8.encode entry.1.text)) := by
  induction h with
  | nil tree => cases among
  | cons first rest ih =>
      obtain ⟨apart, once⟩ := List.nodup_cons.mp once
      rcases List.mem_cons.mp among with rfl | inRest
      · exact (rest.stays apart).of_some first.entry?_place.2
      · exact ih once inRest

/-- Without links the places are those of the names in the directory. -/
theorem Writes.isChild (h : Writes target tree written last) (free : tree.LinkFree)
    (some : target ≠ []) (flat : ∀ entry ∈ written, '/' ∉ entry.1.name)
    {entry : Code.File × List Text} (among : entry ∈ written) :
    IsChild last target entry.1.name entry.2 := by
  induction h with
  | nil tree => cases among
  | cons first rest ih =>
      rcases List.mem_cons.mp among with rfl | inRest
      · exact (first.isChild free some (flat _ List.mem_cons_self)).keeps rest.keeps
      · exact ih (first.linkFree free)
          (fun entry among => flat entry (List.mem_cons_of_mem _ among)) inRest

/-- The given files have come to be in a directory, each under its name and with its text,
and nothing else has changed but that there may be more directories. -/
structure Filled (tree later : FileTree) (target : Text) (files : List Code.File) : Prop where
  holds : ∀ file ∈ files, ∃ path, IsChild later target file.name path ∧
    later.entry? path = some (.file (Utf8.encode file.text))
  stays : ∀ path, (∀ file ∈ files, ¬ IsChild later target file.name path) →
    Stays tree later path

/-- Directories may be added before and after. -/
theorem Filled.mono {before after : FileTree} {files : List Code.File}
    (h : Filled tree later target files) (first : AddsDirectories before tree)
    (second : AddsDirectories later after) : Filled before after target files where
  holds file among := by
    obtain ⟨path, child, found⟩ := h.holds file among
    exact ⟨path, child.keeps second.keeps, (second.stays path).of_some found⟩
  stays path apart := by
    have kept : Stays tree later path :=
      h.stays path fun file among child => apart file among (child.keeps second.keeps)
    exact ((first.stays path).trans kept).trans (second.stays path)

/-- Without links, files of distinct names that are written come to be in the
directory. -/
theorem Writes.filled (h : Writes target tree written last) (free : tree.LinkFree)
    (some : target ≠ []) (flat : ∀ entry ∈ written, '/' ∉ entry.1.name)
    (distinct : (written.map (·.1.name)).Nodup) :
    Filled tree last target (written.map (·.1)) := by
  have child : ∀ entry ∈ written, IsChild last target entry.1.name entry.2 :=
    fun entry among => h.isChild free some flat among
  have once : (written.map (·.2)).Nodup := by
    rw [List.Nodup, List.pairwise_map] at distinct ⊢
    apply distinct.imp_of_mem
    intro entry other among among' different same
    exact different ((child entry among).name_eq (same ▸ child other among'))
  refine ⟨?_, ?_⟩
  · intro file among
    obtain ⟨entry, inWritten, rfl⟩ := List.mem_map.mp among
    exact ⟨entry.2, child entry inWritten, h.entry?_place once inWritten⟩
  · intro path apart
    apply h.stays
    intro among
    obtain ⟨entry, inWritten, rfl⟩ := List.mem_map.mp among
    exact apart entry.1 (List.mem_map_of_mem inWritten) (child entry inWritten)

/-- Writing the files again changes nothing. -/
theorem Writes.puts_eq (h : Writes target tree written last) : puts written last = last := by
  induction h with
  | nil tree => rfl
  | @cons tree next last file place rest first others ih =>
      obtain ⟨below, found⟩ := first.entry?_place
      rw [puts, List.foldl_cons, ← puts]
      by_cases again : place ∈ rest.map (·.2)
      · -- A later file goes over this one, the first time and the second.
        rw [puts_put others.hasFiles again, ih]
      · rw [put_eq_self below ((others.stays again).of_some found), ih]

theorem writeFiles_cons_of_ok {rest : List Code.File} {next : FileTree}
    (written : writeText tree (Path.join target file.name) file.text = (next, none)) :
    writeFiles target counts tree (file :: rest) =
      let path := Path.join target file.name
      let more := writeFiles target counts next rest
      ⟨more.tree, note counts file.name path :: more.log, more.result.map (path :: ·)⟩ := by
  rw [writeFiles, written]

theorem writeFiles_cons_of_error {rest : List Code.File} {after : FileTree} {e : FileError}
    (failed : writeText tree (Path.join target file.name) file.text = (after, some e)) :
    writeFiles target counts tree (file :: rest) =
      let path := Path.join target file.name
      ⟨after, [note counts file.name path], .error (errorOf (Failure.unwritable path) e)⟩ := by
  rw [writeFiles, failed]

/-- In every later tree the files go to the same places. -/
theorem Writes.again (h : Writes target tree written last) (keeps : Keeps last later)
    (counts : List (Text × Int)) :
    (writeFiles target counts later (written.map (·.1))).tree = puts written later ∧
      (writeFiles target counts later (written.map (·.1))).result =
        .ok (written.map fun entry => Path.join target entry.1.name) := by
  induction h generalizing later with
  | nil tree => exact ⟨rfl, rfl⟩
  | cons first rest ih =>
      have here := first.again (rest.keeps.trans keeps)
      obtain ⟨below, octets, found⟩ :=
        ((Writes.cons first rest).hasFiles.keeps keeps) _ List.mem_cons_self
      obtain ⟨tree, result⟩ := ih (keeps.trans ((takes_of_file below found).keeps _))
      rw [List.map_cons, writeFiles_cons_of_ok (here _)]
      dsimp only
      rw [tree, result]
      exact ⟨rfl, rfl⟩

/-- Writing files writes all of them, or those before the first at which it fails. -/
theorem writeFiles_cases (target : Text) (counts : List (Text × Int)) (tree : FileTree)
    (files : List Code.File) :
    (∃ written, files = written.map (·.1) ∧
        Writes target tree written (writeFiles target counts tree files).tree ∧
        (writeFiles target counts tree files).result =
          .ok (files.map fun file => Path.join target file.name)) ∨
      ∃ written middle file rest e, files = written.map (·.1) ++ file :: rest ∧
        Writes target tree written middle ∧
        AddsDirectories middle (writeFiles target counts tree files).tree ∧
        (writeFiles target counts tree files).result =
          .error (errorOf (Failure.unwritable (Path.join target file.name)) e) := by
  induction files generalizing tree with
  | nil => exact Or.inl ⟨[], rfl, .nil tree, rfl⟩
  | cons file files ih =>
      rcases writeText_cases tree (Path.join target file.name) file.text with
        ⟨place, next, writes, result⟩ | ⟨after, e, added, result⟩
      · rw [writeFiles_cons_of_ok result]
        rcases ih next with ⟨written, rfl, others, all⟩ |
            ⟨written, middle, failing, rest, e, rfl, others, added, failed⟩
        · refine Or.inl ⟨(file, place) :: written, rfl, .cons writes others, ?_⟩
          dsimp only
          rw [all]
          rfl
        · refine Or.inr ⟨(file, place) :: written, middle, failing, rest, e, rfl,
            .cons writes others, added, ?_⟩
          dsimp only
          rw [failed]
          rfl
      · rw [writeFiles_cons_of_error result]
        exact Or.inr ⟨[], tree, file, files, e, rfl, .nil tree, added, rfl⟩

/-- More files at the end are written after the others, unless these fail. -/
theorem writeFiles_append (target : Text) (counts : List (Text × Int)) (tree : FileTree)
    (files more : List Code.File) :
    writeFiles target counts tree (files ++ more) =
      let first := writeFiles target counts tree files
      let second := writeFiles target counts first.tree more
      match first.result with
      | .ok paths => ⟨second.tree, first.log ++ second.log, second.result.map (paths ++ ·)⟩
      | .error _ => first := by
  induction files generalizing tree with
  | nil =>
      have same : ∀ result : Except GenError (List Text), result.map ([] ++ ·) = result := by
        intro result
        cases result <;> rfl
      dsimp only [writeFiles]
      rw [same]
      rfl
  | cons file files ih =>
      rw [List.cons_append]
      rcases writeText_cases tree (Path.join target file.name) file.text with
        ⟨place, next, -, written⟩ | ⟨after, e, -, failed⟩
      · rw [writeFiles_cons_of_ok written, writeFiles_cons_of_ok written, ih]
        dsimp only
        cases first : (writeFiles target counts next files).result with
        | error e =>
            dsimp only [Except.map]
            rw [first]
        | ok paths =>
            dsimp only [Except.map]
            generalize writeFiles target counts (writeFiles target counts next files).tree more =
              second
            cases second.result <;> rfl
      · rw [writeFiles_cons_of_error failed, writeFiles_cons_of_error failed]

/-- Once the files are all there, any number of further times changes nothing. -/
theorem Writes.settled (h : Writes target tree written last) (counts : List (Text × Int))
    (times : Nat) :
    let more := writeFiles target counts last (List.replicate times (written.map (·.1))).flatten
    more.tree = last ∧ ∃ paths, more.result = .ok paths := by
  induction times with
  | zero => exact ⟨rfl, [], rfl⟩
  | succ times ih =>
      obtain ⟨same, paths, done⟩ := ih
      obtain ⟨next, result⟩ := h.again (.refl last) counts
      rw [h.puts_eq] at next
      rw [List.replicate_succ, List.flatten_cons, writeFiles_append]
      dsimp only
      rw [result, next, done]
      exact ⟨same, _, rfl⟩

/-- Writing the same files several times leaves the tree of the first time, and fails as
the first time. -/
theorem writeFiles_repeated (target : Text) (counts : List (Text × Int)) (tree : FileTree)
    (files : List Code.File) (times : Nat) :
    let once := writeFiles target counts tree files
    let repeated := writeFiles target counts tree (List.replicate (times + 1) files).flatten
    repeated.tree = once.tree ∧ ∀ e, repeated.result = .error e ↔ once.result = .error e := by
  rw [List.replicate_succ, List.flatten_cons, writeFiles_append]
  dsimp only
  rcases writeFiles_cases target counts tree files with
    ⟨written, rfl, writes, all⟩ | ⟨_, _, _, _, _, -, -, -, failed⟩
  · obtain ⟨same, paths, done⟩ := writes.settled counts times
    rw [all]
    dsimp only
    rw [same, done]
    exact ⟨rfl, fun e => ⟨nofun, nofun⟩⟩
  · rw [failed]
    exact ⟨rfl, fun e => by rw [failed]⟩

end Output

end ClientGen
