/-
# Making directories

Making a directory with all that are missing above it adds directories and changes
nothing else, also where it fails.  Where the directory is there already it does nothing:
then all above it are there, and only a last link could lead elsewhere when it is not
followed.

Where it succeeds the directory is there, but for a last name that is a dot: that one counts
as made as soon as something is there to look it up in.
-/
import ClientGen.Proofs.Walks

namespace ClientGen.FileTree

variable {tree later made : FileTree} {follow : Bool} {here place : List Text} {path : Text}

/-- Where a link at the end is not followed, a path leads to the same place or to the
link. -/
theorem walk_unfollowed {parts : List Text} {ending : Walk}
    (walked : tree.walk true here parts = .ok ending) :
    tree.walk false here parts = .ok ending ∨
      ∃ path target, tree.walk false here parts = .ok (.place (.entry path (.link target))) := by
  induction parts generalizing here with
  | nil => exact Or.inl walked
  | cons part rest ih =>
      rcases walk_cases walked with ⟨next, move, onward⟩ | ends
      · rw [move.walk_eq]
        exact ih onward
      · cases ends with
        | file name found => exact Or.inl (Ends.file name found).walk_eq
        | lastLink name found last => cases last
        | link name found inner =>
            cases rest with
            | nil => exact Or.inr ⟨_, _, (Ends.lastLink name found rfl).walk_eq⟩
            | cons next more =>
                exact Or.inl (Ends.link name found (fun none => by cases none)).walk_eq
        | vacant name found empty => exact Or.inl (Ends.vacant name found empty).walk_eq

theorem Leads.unfollowed {links : Nat} {parts : List Text} {found : Place}
    (h : Leads tree true links here parts found) :
    Leads tree false links here parts found ∨
      ∃ path target, Leads tree false links here parts (.entry path (.link target)) := by
  induction h with
  | place walked =>
      rcases walk_unfollowed walked with same | ⟨path, target, isLink⟩
      · exact Or.inl (.place same)
      · exact Or.inr ⟨path, target, .place isLink⟩
  | link walked _ ih =>
      rcases walk_unfollowed walked with same | ⟨path, target, isLink⟩
      · rcases ih with onward | ⟨path, target, isLink⟩
        · exact Or.inl (.link same onward)
        · exact Or.inr ⟨path, target, .link same isLink⟩
      · exact Or.inr ⟨path, target, .place isLink⟩

theorem locate_unfollowed {found : Place} (located : tree.locate true path = .ok found) :
    tree.locate false path = .ok found ∨
      ∃ place target, tree.locate false path = .ok (.entry place (.link target)) := by
  obtain ⟨null, nonempty, short, leads⟩ := locate_eq_ok_iff.mp located
  rcases leads.unfollowed with same | ⟨place, target, isLink⟩
  · exact Or.inl (locate_eq_ok_iff.mpr ⟨null, nonempty, short, same⟩)
  · exact Or.inr ⟨place, target, locate_eq_ok_iff.mpr ⟨null, nonempty, short, isLink⟩⟩

/-- A directory that is there is not made. -/
theorem ensureDirectory_of_hasDirectory (h : tree.hasDirectory path) :
    tree.ensureDirectory path = (tree, none) := by
  obtain ⟨dir, located⟩ := hasDirectory_iff.mp h
  have taken : ∃ place entry, tree.locate false path = .ok (.entry place entry) := by
    rcases locate_unfollowed located with same | ⟨place, target, isLink⟩
    · exact ⟨_, _, same⟩
    · exact ⟨_, _, isLink⟩
  obtain ⟨place, entry, taken⟩ := taken
  rw [ensureDirectory, makeDirectory, taken]
  exact congrArg (Prod.mk tree) (if_pos h)

/-- Where a directory is, there is nothing to make. -/
theorem makeDirectories_of_hasDirectory (h : tree.hasDirectory path) :
    tree.makeDirectories path = (tree, none) := by
  have above : ∀ {path : Text}, tree.hasDirectory path → Path.directory path ≠ [] →
      tree.hasDirectory (Path.directory path) := by
    intro path found
    obtain ⟨dir, located⟩ := hasDirectory_iff.mp found
    exact hasDirectory_directory located (fun _ same => by cases same)
  have aboveThere : (cutLast path).1 ≠ [] → tree.has (cutLast path).1 := by
    rw [cutLast]
    split
    · dsimp only
      intro some
      have first : Path.directory path ≠ [] := by
        intro none
        rw [none] at some
        exact some rfl
      exact has_of_hasDirectory (above (above h first) some)
    · dsimp only
      intro some
      exact has_of_hasDirectory (above h some)
  rw [makeDirectories]
  cases path.length with
  | zero => exact ensureDirectory_of_hasDirectory h
  | succ depth =>
      rw [makeDirectoriesFrom]
      dsimp only
      split
      · rename_i missing
        simp only [Bool.and_eq_true, Bool.not_eq_true', List.isEmpty_eq_false_iff] at missing
        rw [aboveThere missing.1.1] at missing
        cases missing.2
      · exact ensureDirectory_of_hasDirectory h

/-- No directory is without a name. -/
theorem makeDirectories_nil (tree : FileTree) : (tree.makeDirectories []).2 ≠ none :=
  nofun

theorem addsDirectories_ensureDirectory (tree : FileTree) (path : Text) :
    AddsDirectories tree (tree.ensureDirectory path).1 := by
  rw [ensureDirectory, makeDirectory]
  cases located : tree.locate false path with
  | error e => exact .refl tree
  | ok found =>
      cases found with
      | entry => exact .refl tree
      | vacant place asDirectory =>
          obtain ⟨-, -, -, leads⟩ := locate_eq_ok_iff.mp located
          obtain ⟨below, missing⟩ := leads.isIn
          refine ⟨rfl, fun other => ?_⟩
          dsimp only
          rw [Stays, entry?_put below]
          split
          · rename_i same
            exact Or.inr ⟨same ▸ missing, rfl⟩
          · exact Or.inl rfl

theorem addsDirectories_finish (tree : FileTree) (last path : Text) :
    AddsDirectories tree (makeDirectoriesFrom.finish tree last path).1 := by
  rw [makeDirectoriesFrom.finish]
  split
  · exact .refl tree
  · exact addsDirectories_ensureDirectory tree path

/-- Making directories adds directories and changes nothing else, also where it fails. -/
theorem addsDirectories_makeDirectoriesFrom (depth : Nat) (tree : FileTree) (path : Text) :
    AddsDirectories tree (makeDirectoriesFrom depth tree path).1 := by
  induction depth generalizing path with
  | zero => exact addsDirectories_ensureDirectory tree path
  | succ depth ih =>
      rw [makeDirectoriesFrom]
      dsimp only
      split
      · have made := ih (cutLast path).1
        split
        · rename_i after e result
          rw [result] at made
          split
          · exact made.trans (addsDirectories_finish after _ _)
          · exact made
        · rename_i after result
          rw [result] at made
          exact made.trans (addsDirectories_finish after _ _)
      · exact addsDirectories_ensureDirectory tree path

theorem addsDirectories_of_makeDirectories {made : FileTree} {e : Option FileError}
    (result : tree.makeDirectories path = (made, e)) : AddsDirectories tree made := by
  have added := addsDirectories_makeDirectoriesFrom path.length tree path
  rw [← makeDirectories, result] at added
  exact added

/-! ## Directories that were made -/

/-- Where there is a directory by now at a free name, the walk to that name leads to it. -/
theorem Keeps.walk_of_vacant (h : Keeps tree later) {parts : List Text} {asDirectory : Bool}
    (walked : tree.walk follow here parts = .ok (.place (.vacant place asDirectory)))
    (now : later.entry? place = some .directory) (follow' : Bool) :
    later.walk follow' here parts = .ok (.place (.entry place .directory)) := by
  induction parts generalizing here with
  | nil => cases walked
  | cons part rest ih =>
      rcases walk_cases walked with ⟨next, move, onward⟩ | ends
      · rw [(h.moves move).walk_eq]
        exact ih onward
      · cases ends with
        | vacant name missing blank =>
            rw [(Moves.into name now).walk_eq]
            exact walk_of_blank (by simpa using blank)

/-- Without links, a directory that is made is there. -/
theorem LinkFree.hasDirectory_of_makeDirectory (free : tree.LinkFree)
    (result : tree.makeDirectory path = .ok made) : made.hasDirectory path := by
  rw [makeDirectory] at result
  split at result
  · cases result
  · rename_i place asDirectory located
    cases result
    obtain ⟨null, nonempty, short, leads⟩ := locate_eq_ok_iff.mp located
    obtain ⟨below, missing⟩ := leads.isIn
    have now : FileTree.entry? (tree.put place .directory) place = some .directory := by
      rw [entry?_put below, if_pos rfl]
    have keeps : Keeps tree (tree.put place .directory) := by
      have added := addsDirectories_ensureDirectory tree path
      rw [ensureDirectory, makeDirectory, located] at added
      exact added.keeps
    have walked := keeps.walk_of_vacant (free.walk_of_leads leads) now true
    exact hasDirectory_iff.mpr ⟨place, locate_eq_ok_iff.mpr ⟨null, nonempty, short, .place walked⟩⟩
  · cases result

/-- Without links, a directory that is found or made is there. -/
theorem LinkFree.hasDirectory_of_ensureDirectory (free : tree.LinkFree)
    (result : tree.ensureDirectory path = (made, none)) : made.hasDirectory path := by
  rw [ensureDirectory] at result
  split at result
  · rename_i made' ok
    cases result
    exact free.hasDirectory_of_makeDirectory ok
  · by_cases there : tree.hasDirectory path
    · rw [if_pos there] at result
      cases result
      exact there
    · rw [if_neg there] at result
      cases result

/-- Without links, a directory that is made with all above it is there, unless its last name
is a dot. -/
theorem LinkFree.hasDirectory_of_makeDirectories (free : tree.LinkFree)
    (proper : (cutLast path).2 ≠ ['.']) (result : tree.makeDirectories path = (made, none)) :
    made.hasDirectory path := by
  rw [makeDirectories] at result
  cases depth : path.length with
  | zero =>
      rw [depth] at result
      exact free.hasDirectory_of_ensureDirectory result
  | succ depth' =>
      rw [depth, makeDirectoriesFrom] at result
      dsimp only at result
      -- Whatever comes of the directories above, the last name is looked up after them.
      have above := addsDirectories_makeDirectoriesFrom depth' tree (cutLast path).1
      have finished : ∀ {after : FileTree}, AddsDirectories tree after →
          makeDirectoriesFrom.finish after (cutLast path).2 path = (made, none) →
          made.hasDirectory path := by
        intro after added finish
        rw [makeDirectoriesFrom.finish, if_neg proper] at finish
        exact (added.linkFree free).hasDirectory_of_ensureDirectory finish
      split at result
      · split at result
        · rename_i after e made'
          rw [made'] at above
          split at result
          · exact finished above result
          · cases result
        · rename_i after made'
          rw [made'] at above
          exact finished above result
      · exact free.hasDirectory_of_ensureDirectory result

/-! ## Null characters -/

/-- A path without null characters is looked up. -/
theorem locate_ne_nullCharacter (noNull : '\x00' ∉ path) :
    tree.locate follow path ≠ .error .nullCharacter := by
  rw [locate, if_neg (by simpa using noNull)]
  dsimp only
  split
  · rintro ⟨⟩
  · rintro ⟨⟩

theorem makeDirectory_ne_nullCharacter (noNull : '\x00' ∉ path) :
    tree.makeDirectory path ≠ .error .nullCharacter := by
  rw [makeDirectory]
  split
  · rename_i e located
    rintro ⟨⟩
    exact locate_ne_nullCharacter noNull located
  · rintro ⟨⟩
  · rintro ⟨⟩

theorem write_ne_nullCharacter (noNull : '\x00' ∉ path) (octets : List UInt8) :
    tree.write path octets ≠ .error .nullCharacter := by
  rw [write]
  split
  · rename_i e located
    rintro ⟨⟩
    exact locate_ne_nullCharacter noNull located
  · rintro ⟨⟩
  · rintro ⟨⟩
  · rintro ⟨⟩

theorem ensureDirectory_ne_nullCharacter (noNull : '\x00' ∉ path) :
    (tree.ensureDirectory path).2 ≠ some .nullCharacter := by
  rw [ensureDirectory]
  split
  · rintro ⟨⟩
  · rename_i e failed
    dsimp only
    split
    · rintro ⟨⟩
    · rintro ⟨⟩
      exact makeDirectory_ne_nullCharacter noNull failed

theorem makeDirectoriesFrom_ne_nullCharacter (depth : Nat) (noNull : '\x00' ∉ path) :
    (makeDirectoriesFrom depth tree path).2 ≠ some .nullCharacter := by
  induction depth generalizing path with
  | zero => exact ensureDirectory_ne_nullCharacter noNull
  | succ depth ih =>
      have above : '\x00' ∉ (cutLast path).1 := by
        rw [cutLast]
        split
        · dsimp only
          exact fun among => noNull (Path.mem_of_mem_directory (Path.mem_of_mem_directory among))
        · dsimp only
          exact fun among => noNull (Path.mem_of_mem_directory among)
      have finished : ∀ after : FileTree,
          (makeDirectoriesFrom.finish after (cutLast path).2 path).2 ≠ some .nullCharacter := by
        intro after
        rw [makeDirectoriesFrom.finish]
        split
        · rintro ⟨⟩
        · exact ensureDirectory_ne_nullCharacter noNull
      have failed := ih above
      rw [makeDirectoriesFrom]
      dsimp only
      split
      · split
        · rename_i after e made
          rw [made] at failed
          split
          · exact finished after
          · exact failed
        · exact finished _
      · exact ensureDirectory_ne_nullCharacter noNull

theorem makeDirectories_ne_nullCharacter (noNull : '\x00' ∉ path) (tree : FileTree) :
    (tree.makeDirectories path).2 ≠ some .nullCharacter :=
  makeDirectoriesFrom_ne_nullCharacter _ noNull

end ClientGen.FileTree
