/-
# Trees that keep what they have

A run only adds to a file tree: it makes directories where there is nothing, and it puts
files where there is nothing or a file.  Two relations between a tree and a later one say
so.  A later tree that keeps the first has its directories and links, and a file wherever
the first has one; this is all that the paths of the first need.  A tree that only gets
more directories has the same files besides.
-/
import ClientGen.Files.Tree
import ClientGen.Proofs.Ordered

namespace ClientGen.FileTree

variable {tree later last : FileTree} {place : List Text}

/-- The entries after one is put at a path below the root. -/
theorem entry?_put (below : place ≠ []) (entry : FileEntry) (other : List Text) :
    FileTree.entry? (tree.put place entry) other =
      if place = other then some entry else tree.entry? other := by
  rw [ entry?, entry?, put, Ordered.get?_put]
  cases other with
  | nil => simp [below]
  | cons first rest => rfl

/-- Putting an entry that is there already changes nothing. -/
theorem put_eq_self (below : place ≠ []) {entry : FileEntry} (h : tree.entry? place = some entry) :
    tree.put place entry = tree := by
  rw [ entry?, if_neg (by simpa using below)] at h
  rw [put, Ordered.put_eq_self h]

/-- What a tree holds below the root can be written over in any order. -/
theorem put_comm {other : List Text} (below : place ≠ []) (below' : other ≠ [])
    (different : place ≠ other) (entry entry' : FileEntry) (known : (tree.entry? place).isSome)
    (known' : (tree.entry? other).isSome) :
    (tree.put other entry').put place entry = (tree.put place entry).put other entry' := by
  rw [ entry?, if_neg (by simpa using below)] at known
  rw [ entry?, if_neg (by simpa using below')] at known'
  simp only [put]
  rw [Ordered.put_comm different entry entry' known known']

/-- The later tree has the directories and the links of the first, and a file wherever
the first has one. -/
structure Keeps (tree later : FileTree) : Prop where
  home : later.workingDirectory = tree.workingDirectory
  directory {path : List Text} : tree.entry? path = some .directory →
    later.entry? path = some .directory
  link {path : List Text} {target : Text} : tree.entry? path = some (.link target) →
    later.entry? path = some (.link target)
  file {path : List Text} {octets : List UInt8} : tree.entry? path = some (.file octets) →
    ∃ now, later.entry? path = some (.file now)

@[refl]
theorem Keeps.refl (tree : FileTree) : Keeps tree tree := ⟨rfl, id, id, fun h => ⟨_, h⟩⟩

theorem Keeps.trans (h : Keeps tree later) (h' : Keeps later last) : Keeps tree last where
  home := h'.home.trans h.home
  directory found := h'.directory (h.directory found)
  link found := h'.link (h.link found)
  file found := by
    obtain ⟨_, then_⟩ := h.file found
    exact h'.file then_

/-- A file can be put at a path: it is below the root, and nothing else is there. -/
structure Takes (tree : FileTree) (place : List Text) : Prop where
  below : place ≠ []
  free {entry : FileEntry} : tree.entry? place = some entry → ∃ octets, entry = .file octets

/-- A file can be put where one is. -/
theorem takes_of_file (below : place ≠ []) {octets : List UInt8}
    (found : tree.entry? place = some (.file octets)) : tree.Takes place where
  below := below
  free entry := ⟨octets, by rw [found] at entry; exact (Option.some.inj entry).symm⟩

/-- Putting a file keeps the tree. -/
theorem Takes.keeps (h : tree.Takes place) (octets : List UInt8) :
    Keeps tree (tree.put place (.file octets)) where
  home := rfl
  directory {path} found := by
    rw [entry?_put h.below]
    split
    · rename_i same
      obtain ⟨_, isFile⟩ := h.free (same ▸ found)
      cases isFile
    · exact found
  link {path target} found := by
    rw [entry?_put h.below]
    split
    · rename_i same
      obtain ⟨_, isFile⟩ := h.free (same ▸ found)
      cases isFile
    · exact found
  file {path before} found := by
    rw [entry?_put h.below]
    split
    · exact ⟨_, rfl⟩
    · exact ⟨_, found⟩

/-- A path has the entry that it had, or a directory where there was nothing. -/
def Stays (tree later : FileTree) (path : List Text) : Prop :=
  later.entry? path = tree.entry? path ∨
    tree.entry? path = none ∧ later.entry? path = some .directory

/-- What is at such a path stays. -/
theorem Stays.of_some {path : List Text} (h : Stays tree later path) {entry : FileEntry}
    (found : tree.entry? path = some entry) : later.entry? path = some entry := by
  rcases h with same | ⟨missing, -⟩
  · rw [same, found]
  · rw [found] at missing
    cases missing

theorem Stays.trans {path : List Text} (h : Stays tree later path) (h' : Stays later last path) :
    Stays tree last path := by
  rcases h' with same | ⟨missing, added⟩
  · rw [Stays, same]
    exact h
  · rcases h with same | ⟨-, isDirectory⟩
    · exact Or.inr ⟨same ▸ missing, added⟩
    · rw [isDirectory] at missing
      cases missing

/-- At such a path there is no link but an old one. -/
theorem Stays.ne_link {path : List Text} {target : Text} (h : Stays tree later path)
    (noLink : tree.entry? path ≠ some (.link target)) :
    later.entry? path ≠ some (.link target) := by
  intro found
  rcases h with same | ⟨-, isDirectory⟩
  · exact noLink (same.symm.trans found)
  · rw [isDirectory] at found
    cases found

/-- The later tree has further directories and is otherwise the same. -/
structure AddsDirectories (tree later : FileTree) : Prop where
  home : later.workingDirectory = tree.workingDirectory
  stays (path : List Text) : Stays tree later path

@[refl]
theorem AddsDirectories.refl (tree : FileTree) : AddsDirectories tree tree :=
  ⟨rfl, fun _ => Or.inl rfl⟩

theorem AddsDirectories.trans (h : AddsDirectories tree later) (h' : AddsDirectories later last) :
    AddsDirectories tree last where
  home := h'.home.trans h.home
  stays path := (h.stays path).trans (h'.stays path)

/-- Adding directories keeps the tree. -/
theorem AddsDirectories.keeps (h : AddsDirectories tree later) : Keeps tree later where
  home := h.home
  directory := (h.stays _).of_some
  link := (h.stays _).of_some
  file found := ⟨_, (h.stays _).of_some found⟩

/-- No entry is a link. -/
def LinkFree (tree : FileTree) : Prop :=
  ∀ (path : List Text) (target : Text), tree.entry? path ≠ some (.link target)

theorem AddsDirectories.linkFree (h : AddsDirectories tree later) (free : tree.LinkFree) :
    later.LinkFree :=
  fun path target => (h.stays path).ne_link (free path target)

end ClientGen.FileTree
