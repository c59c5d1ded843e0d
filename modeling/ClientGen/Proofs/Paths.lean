/-
# Laws of paths as texts

How the directory of a path stands in it: there is none, or it consists of slashes, or
a slash follows it.  And how a name is joined to a directory: the name becomes the last
part, behind the parts of the directory.
-/
import ClientGen.Files.Path
import ClientGen.Proofs.Text

namespace ClientGen.Path

variable {path target name : Text}

/-! ## The directory of a path -/

/-- The text up to the last slash. -/
def beginning (path : Text) : Text := path.rdropWhile (· ≠ '/')

/-- The directory is the beginning without the slashes at its end, unless there is
nothing else. -/
theorem directory_eq (path : Text) :
    directory path =
      if (beginning path).all (· = '/') then beginning path
      else (beginning path).rdropWhile (· = '/') := by
  have cut : path.take (path.length - (lastPart path).length) = beginning path := by
    have whole : beginning path ++ lastPart path = path := List.rdropWhile_append_rtakeWhile
    have length : path.length - (lastPart path).length = (beginning path).length := by
      have lengths := congrArg List.length whole
      rw [List.length_append] at lengths
      omega
    have start : beginning path <+: path := ⟨_, whole⟩
    rw [length, List.prefix_iff_eq_take.mp start, List.length_take]
    simp
  rw [directory, cut]
  rfl

/-- A beginning that is not empty ends in a slash. -/
theorem beginning_eq_concat (h : beginning path ≠ []) :
    ∃ front, beginning path = front ++ ['/'] := by
  have slash := List.rdropWhile_last_not (fun c => decide (c ≠ '/')) path h
  refine ⟨(beginning path).dropLast, ?_⟩
  have last : (beginning path).getLast h = '/' := by simpa [beginning] using slash
  rw [← last, List.dropLast_concat_getLast]

/-- The directory of a path: none, slashes at the front of the path, or what stands
before a slash. -/
theorem directory_cases (path : Text) :
    directory path = [] ∨
      (directory path ≠ [] ∧ directory path <+: path ∧ ∀ c ∈ directory path, c = '/') ∨
      ∃ rest, directory path ≠ [] ∧ path = directory path ++ '/' :: rest := by
  have whole : beginning path ++ lastPart path = path := List.rdropWhile_append_rtakeWhile
  rw [directory_eq]
  split
  · rename_i slashes
    by_cases none : beginning path = []
    · exact Or.inl none
    · exact Or.inr (Or.inl ⟨none, ⟨_, whole⟩, by simpa using slashes⟩)
  · rename_i other
    have some : (beginning path).rdropWhile (· = '/') ≠ [] := by
      rw [ne_eq, List.rdropWhile_eq_nil_iff]
      simpa using other
    obtain ⟨front, ends⟩ : ∃ front, beginning path = front ++ ['/'] := by
      apply beginning_eq_concat
      intro none
      exact other (by simp [none])
    have slashes : (beginning path).rtakeWhile (· = '/') ≠ [] := by
      rw [ends, List.rtakeWhile_concat_pos _ _ _ rfl]
      simp
    have split : (beginning path).rdropWhile (· = '/') ++ (beginning path).rtakeWhile (· = '/') =
        beginning path := List.rdropWhile_append_rtakeWhile
    cases cut : (beginning path).rtakeWhile (· = '/') with
    | nil => exact absurd cut slashes
    | cons c more =>
        have isSlash : c = '/' := by
          have inSlashes : c ∈ (beginning path).rtakeWhile (· = '/') := cut ▸ List.mem_cons_self
          simpa using List.mem_rtakeWhile_imp inSlashes
        refine Or.inr (Or.inr ⟨more ++ lastPart path, some, ?_⟩)
        rw [cut, isSlash] at split
        rw [← List.cons_append, ← List.append_assoc, split, whole]

/-- The directory of a path has no other characters. -/
theorem mem_of_mem_directory {c : Char} (h : c ∈ directory path) : c ∈ path := by
  rcases directory_cases path with none | ⟨-, start, -⟩ | ⟨rest, -, whole⟩
  · rw [none] at h
    cases h
  · exact start.subset h
  · rw [whole]
    exact List.mem_append_left _ h

/-- There is nothing between slashes. -/
theorem eq_nil_of_mem_parts (slashes : ∀ c ∈ path, c = '/') {part : Text}
    (h : part ∈ parts path) : part = [] := by
  rw [List.eq_nil_iff_forall_not_mem]
  intro c among
  obtain ⟨inPath, other⟩ := Text.mem_of_mem_splitAt h among
  exact other (slashes c inPath)

/-- The parts of a path around a slash. -/
theorem parts_append (front rest : Text) :
    parts (front ++ '/' :: rest) = parts front ++ parts rest :=
  Text.splitAt_append_sep '/' front rest

theorem parts_ne_nil (path : Text) : parts path ≠ [] := Text.splitAt_ne_nil '/' path

/-! ## Joining a name -/

/-- A path without slashes does not begin at the root. -/
theorem not_isAbsolute (name_ : '/' ∉ name) : ¬ isAbsolute name := by
  cases name with
  | nil => simp [isAbsolute]
  | cons c rest =>
      have other : c ≠ '/' := fun same => name_ (same ▸ List.mem_cons_self)
      simpa [isAbsolute] using other

/-- A name joined to a directory is the last part, behind the parts of the directory
without the empty one after a slash at its end. -/
theorem parts_join (some : target ≠ []) (name_ : '/' ∉ name) :
    ∃ front, parts (join target name) = front ++ [name] ∧
      (parts target = front ∨ parts target = front ++ [[]]) := by
  have alone : parts name = [name] := Text.splitAt_eq_singleton name_
  rw [join, if_neg (not_isAbsolute name_)]
  by_cases slash : target.getLast? = Option.some '/'
  · obtain ⟨front, rfl⟩ := List.getLast?_eq_some_iff.mp slash
    refine ⟨parts front, ?_, Or.inr (parts_append front [])⟩
    rw [if_pos (by simp), List.append_assoc, List.singleton_append, parts_append, alone]
  · refine ⟨parts target, ?_, Or.inl rfl⟩
    rw [if_neg (by simp [some, slash]), parts_append, alone]

/-- A joined path begins with its directory. -/
theorem prefix_join (name_ : '/' ∉ name) : target <+: join target name := by
  rw [join, if_neg (not_isAbsolute name_)]
  split
  · exact List.prefix_append _ _
  · exact List.prefix_append _ _

/-- The characters of a joined path are those of its two parts and slashes. -/
theorem mem_of_mem_join {c : Char} (h : c ∈ join target name) :
    c ∈ target ∨ c ∈ name ∨ c = '/' := by
  rw [join] at h
  split at h
  · exact Or.inr (Or.inl h)
  · split at h
    · rcases List.mem_append.mp h with inTarget | inName
      · exact Or.inl inTarget
      · exact Or.inr (Or.inl inName)
    · rcases List.mem_append.mp h with inTarget | inRest
      · exact Or.inl inTarget
      · rcases List.mem_cons.mp inRest with slash | inName
        · exact Or.inr (Or.inr slash)
        · exact Or.inr (Or.inl inName)

end ClientGen.Path
