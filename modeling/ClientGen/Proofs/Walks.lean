/-
# What paths lead to

A path that leads somewhere passes directories and links on its way and nothing else.
So it leads to the same place in every later tree that keeps these, whatever else has
come to be there; and each beginning of it that ends at a slash leads to a directory.

A walk is taken apart once, into what one part can do: it goes on to a directory, or it
ends.  Everything else about walks is an induction over the parts with these two cases,
and everything about a path is an induction over the links on its way.
-/
import ClientGen.Proofs.Paths
import ClientGen.Proofs.Trees

namespace ClientGen

/-- The path at which a file can be written where a path leads to this place. -/
def Place.filePath? : Place → Option (List Text)
  | .entry path (.file _) | .vacant path false => some path
  | _ => none

/-- No file can be written where a slash follows a free name. -/
theorem Place.ne_vacant_of_filePath? {found : Place} {place : List Text}
    (at_ : found.filePath? = some place) (path : List Text) : found ≠ .vacant path true := by
  rintro rfl
  cases at_

namespace FileTree

variable {tree later : FileTree} {follow : Bool} {here dir place : List Text} {path : Text}

/-! ## Steps of a walk -/

/-- A part that is looked up as a name. -/
structure IsName (part : Text) : Prop where
  nonempty : part ≠ []
  ne_here : part ≠ ['.']
  ne_up : part ≠ ['.', '.']
  short : size part ≤ maxNameLength

/-- A walk goes on along one part to a directory. -/
inductive Moves (tree : FileTree) (here : List Text) (part : Text) : List Text → Prop
  | stay : part = [] ∨ part = ['.'] → Moves tree here part here
  | up : part = ['.', '.'] → Moves tree here part here.dropLast
  | into : IsName part → tree.entry? (here ++ [part]) = some .directory →
      Moves tree here part (here ++ [part])

/-- A walk ends at one part, with the given parts after it. -/
inductive Ends (tree : FileTree) (follow : Bool) (here : List Text) (part : Text) :
    List Text → Walk → Prop
  | file {octets : List UInt8} : IsName part →
      tree.entry? (here ++ [part]) = some (.file octets) →
      Ends tree follow here part [] (.place (.entry (here ++ [part]) (.file octets)))
  | lastLink {target : Text} : IsName part →
      tree.entry? (here ++ [part]) = some (.link target) → follow = false →
      Ends tree follow here part [] (.place (.entry (here ++ [part]) (.link target)))
  | link {target : Text} {rest : List Text} : IsName part →
      tree.entry? (here ++ [part]) = some (.link target) → (rest = [] → follow = true) →
      Ends tree follow here part rest (.link here target rest)
  | vacant {rest : List Text} : IsName part → tree.entry? (here ++ [part]) = none →
      rest.all List.isEmpty → Ends tree follow here part rest
        (.place (.vacant (here ++ [part]) (! rest.isEmpty)))

/-- A part that is looked up as a name is not passed over. -/
theorem walk_of_isName {part : Text} (name : IsName part) (rest : List Text) :
    tree.walk follow here (part :: rest) =
      match tree.entry? (here ++ [part]) with
      | some .directory => tree.walk follow (here ++ [part]) rest
      | some (.file octets) =>
        if rest.isEmpty then .ok (.place (.entry (here ++ [part]) (.file octets)))
        else .error .notDirectory
      | some (.link target) =>
        if rest.isEmpty && ! follow then .ok (.place (.entry (here ++ [part]) (.link target)))
        else .ok (.link here target rest)
      | none =>
        if rest.all List.isEmpty then .ok (.place (.vacant (here ++ [part]) (! rest.isEmpty)))
        else .error .noEntry := by
  have passed : ¬ (part.isEmpty || part = ['.']) := by simp [name.nonempty, name.ne_here]
  rw [walk, if_neg passed, if_neg name.ne_up]
  exact if_neg (Nat.not_lt.mpr name.short)

theorem Moves.walk_eq {part : Text} {next : List Text} (h : Moves tree here part next)
    (follow : Bool) (rest : List Text) :
    tree.walk follow here (part :: rest) = tree.walk follow next rest := by
  cases h with
  | stay passed => rw [walk, if_pos (by simpa using passed)]
  | up isUp => rw [walk, if_neg (by simp [isUp]), if_pos isUp]
  | into name found => rw [walk_of_isName name, found]

theorem Ends.walk_eq {part : Text} {rest : List Text} {ending : Walk}
    (h : Ends tree follow here part rest ending) :
    tree.walk follow here (part :: rest) = .ok ending := by
  cases h with
  | file name found => rw [walk_of_isName name, found]; rfl
  | lastLink name found last => rw [walk_of_isName name, found, last]; rfl
  | link name found inner =>
      have passes : ¬ (rest.isEmpty && ! follow) := by simpa using inner
      rw [walk_of_isName name, found]
      exact if_neg passes
  | vacant name found empty =>
      rw [walk_of_isName name, found]
      exact if_pos empty

/-- What one step of a walk can do. -/
theorem walk_cases {part : Text} {rest : List Text} {ending : Walk}
    (walked : tree.walk follow here (part :: rest) = .ok ending) :
    (∃ next, Moves tree here part next ∧ tree.walk follow next rest = .ok ending) ∨
      Ends tree follow here part rest ending := by
  by_cases passed : part = [] ∨ part = ['.']
  · have move : Moves tree here part here := .stay passed
    exact Or.inl ⟨_, move, by rwa [move.walk_eq] at walked⟩
  by_cases isUp : part = ['.', '.']
  · have move : Moves tree here part here.dropLast := .up isUp
    exact Or.inl ⟨_, move, by rwa [move.walk_eq] at walked⟩
  by_cases long : size part > maxNameLength
  · rw [walk, if_neg (by simpa using passed), if_neg isUp, if_pos long] at walked
    cases walked
  have name : IsName part := ⟨fun h => passed (Or.inl h), fun h => passed (Or.inr h), isUp,
    Nat.not_lt.mp long⟩
  rw [walk_of_isName name] at walked
  cases found : tree.entry? (here ++ [part]) with
  | none =>
      rw [found] at walked
      dsimp only at walked
      split at walked
      · rename_i empty
        cases walked
        exact Or.inr (.vacant name found empty)
      · cases walked
  | some entry =>
      rw [found] at walked
      cases entry with
      | directory => exact Or.inl ⟨_, .into name found, walked⟩
      | file octets =>
          dsimp only at walked
          split at walked
          · rename_i isLast
            cases walked
            cases List.isEmpty_iff.mp isLast
            exact Or.inr (.file name found)
          · cases walked
      | link target =>
          dsimp only at walked
          split at walked
          · rename_i isLast
            obtain ⟨isLast, last⟩ := Bool.and_eq_true_iff.mp isLast
            cases walked
            cases List.isEmpty_iff.mp isLast
            exact Or.inr (.lastLink name found (by simpa using last))
          · rename_i inner
            cases walked
            exact Or.inr (.link name found (by simpa using inner))

/-! ## Walking in a later tree -/

/-- What a place is in a later tree: a directory or a link is the same, and where a file
was or could be put there is a file. -/
inductive Becomes (later : FileTree) : Place → Place → Prop
  | directory (path : List Text) : Becomes later (.entry path .directory) (.entry path .directory)
  | link (path : List Text) (target : Text) :
      Becomes later (.entry path (.link target)) (.entry path (.link target))
  | file {place : Place} {path : List Text} {octets : List UInt8} : place.filePath? = some path →
      later.entry? path = some (.file octets) → Becomes later place (.entry path (.file octets))

/-- What the end of a walk is in a later tree. -/
inductive WalkBecomes (later : FileTree) : Walk → Walk → Prop
  | place {before after : Place} : Becomes later before after →
      WalkBecomes later (.place before) (.place after)
  | link (directory : List Text) (target : Text) (rest : List Text) :
      WalkBecomes later (.link directory target rest) (.link directory target rest)

theorem Keeps.moves (h : Keeps tree later) {part : Text} {next : List Text}
    (move : Moves tree here part next) : Moves later here part next := by
  cases move with
  | stay passed => exact .stay passed
  | up isUp => exact .up isUp
  | into name found => exact .into name (h.directory found)

theorem Keeps.ends (h : Keeps tree later) {part : Text} {rest : List Text} {before after : Walk}
    (ends : Ends tree follow here part rest before) (becomes : WalkBecomes later before after) :
    Ends later follow here part rest after := by
  cases becomes with
  | link directory target rest =>
      cases ends with
      | link name found inner => exact .link name (h.link found) inner
  | place becomes =>
      cases becomes with
      | directory path => cases ends
      | link path target =>
          cases ends with
          | lastLink name found last => exact .lastLink name (h.link found) last
      | file was now =>
          cases ends with
          | file name found =>
              cases was
              exact .file name now
          | lastLink name found last => cases was
          | vacant name found empty =>
              cases rest with
              | nil =>
                  cases was
                  exact .file name now
              | cons next more => cases was

/-- A walk ends in a later tree where it ended before. -/
theorem Keeps.walk_eq (h : Keeps tree later) {parts : List Text} {before after : Walk}
    (walked : tree.walk follow here parts = .ok before) (becomes : WalkBecomes later before after) :
    later.walk follow here parts = .ok after := by
  induction parts generalizing here with
  | nil =>
      cases walked
      obtain ⟨becomes⟩ := becomes
      cases becomes with
      | directory => rfl
      | file was => cases was
  | cons part rest ih =>
      rcases walk_cases walked with ⟨next, move, onward⟩ | ends
      · rw [(h.moves move).walk_eq]
        exact ih onward
      · exact (h.ends ends becomes).walk_eq

/-! ## Following links -/

/-- Parts lead to a place through at most so many links: the walk along them ends there,
or at a link from which the rest leads there. -/
inductive Leads (tree : FileTree) (follow : Bool) : Nat → List Text → List Text → Place → Prop
  | place {links : Nat} {here parts : List Text} {found : Place} :
      tree.walk follow here parts = .ok (.place found) → Leads tree follow links here parts found
  | link {links : Nat} {here parts dir rest : List Text} {target : Text} {found : Place} :
      tree.walk follow here parts = .ok (.link dir target rest) →
      Leads tree follow links (if Path.isAbsolute target then [] else dir)
        (Path.parts target ++ rest) found →
      Leads tree follow (links + 1) here parts found

/-- What parts are resolved to is what they lead to. -/
theorem resolve_eq_ok_iff {links : Nat} {parts : List Text} {found : Place} :
    tree.resolve follow links here parts = .ok found ↔
      Leads tree follow links here parts found := by
  constructor
  · intro resolved
    induction links generalizing here parts with
    | zero =>
        rw [resolve] at resolved
        split at resolved
        · cases resolved
        · cases resolved
          exact .place ‹_›
        · cases resolved
    | succ links ih =>
        rw [resolve] at resolved
        split at resolved
        · cases resolved
        · cases resolved
          exact .place ‹_›
        · exact .link ‹_› (ih resolved)
  · intro leads
    induction leads with
    | @place links _ _ _ walked => cases links <;> rw [resolve, walked]
    | link walked _ ih =>
        rw [resolve, walked]
        exact ih

/-- Parts lead in a later tree where they led before. -/
theorem Keeps.leads (h : Keeps tree later) {links : Nat} {parts : List Text}
    {before after : Place} (leads : Leads tree follow links here parts before)
    (becomes : Becomes later before after) : Leads later follow links here parts after := by
  induction leads with
  | place walked => exact .place (h.walk_eq walked (.place becomes))
  | link walked _ ih => exact .link (h.walk_eq walked (.link _ _ _)) (ih becomes)

/-! ## Places found -/

/-- A place is as the tree has it.  Nothing is said of directories, to which a walk may
have gone up. -/
def IsIn (tree : FileTree) : Place → Prop
  | .entry path (.file octets) => path ≠ [] ∧ tree.entry? path = some (.file octets)
  | .vacant path _ => path ≠ [] ∧ tree.entry? path = none
  | _ => True

theorem isIn_of_walk {parts : List Text} {found : Place}
    (walked : tree.walk follow here parts = .ok (.place found)) : tree.IsIn found := by
  induction parts generalizing here with
  | nil =>
      cases walked
      trivial
  | cons part rest ih =>
      rcases walk_cases walked with ⟨next, -, onward⟩ | ends
      · exact ih onward
      · cases ends with
        | file name found => exact ⟨by simp, found⟩
        | lastLink name found last => trivial
        | vacant name found empty => exact ⟨by simp, found⟩

theorem Leads.isIn {links : Nat} {parts : List Text} {found : Place}
    (h : Leads tree follow links here parts found) : tree.IsIn found := by
  induction h with
  | place walked => exact isIn_of_walk walked
  | link _ _ ih => exact ih

/-- A file can be put at a place that can be written to. -/
theorem IsIn.takes {found : Place} (h : tree.IsIn found) (at_ : found.filePath? = some place) :
    tree.Takes place := by
  unfold Place.filePath? at at_
  split at at_
  · cases at_
    exact takes_of_file h.1 h.2
  · cases at_
    exact ⟨h.1, fun entry => by rw [h.2] at entry; cases entry⟩
  · cases at_

/-! ## Beginnings of a path -/

/-- A walk through the first of two stretches of parts comes to a directory, from which
it goes on, or to a link. -/
theorem walk_append {front rest : List Text} (more : rest ≠ []) {ending : Walk}
    (walked : tree.walk true here (front ++ rest) = .ok ending)
    (open_ : ∀ path, ending ≠ .place (.vacant path true)) :
    (∃ dir, tree.walk true here front = .ok (.place (.entry dir .directory)) ∧
        tree.walk true dir rest = .ok ending) ∨
      ∃ dir target between, tree.walk true here front = .ok (.link dir target between) ∧
        ending = .link dir target (between ++ rest) := by
  induction front generalizing here with
  | nil => exact Or.inl ⟨here, rfl, walked⟩
  | cons part front ih =>
      rw [List.cons_append] at walked
      rcases walk_cases walked with ⟨next, move, onward⟩ | ends
      · rw [move.walk_eq]
        exact ih onward
      · generalize after : front ++ rest = parts at ends
        have nonempty : parts ≠ [] := by simp [← after, more]
        cases ends with
        | file => exact absurd rfl nonempty
        | lastLink => exact absurd rfl nonempty
        | link name found inner =>
            rw [(Ends.link name found fun _ => rfl).walk_eq, ← after]
            exact Or.inr ⟨_, _, _, rfl, rfl⟩
        | vacant name found empty =>
            -- With parts left over, what is missing would have to be a directory.
            refine absurd ?_ (open_ (here ++ [part]))
            simp [nonempty]

/-- The first of two stretches of parts leads to a directory, and the second leads on
from it. -/
theorem Leads.split {links : Nat} {front rest : List Text} (more : rest ≠ []) {found : Place}
    (h : Leads tree true links here (front ++ rest) found)
    (open_ : ∀ path, found ≠ .vacant path true) :
    ∃ dir fewer, Leads tree true links here front (.entry dir .directory) ∧
      Leads tree true fewer dir rest found := by
  generalize whole : front ++ rest = parts at h
  induction h generalizing front with
  | place walked =>
      subst whole
      rcases walk_append more walked (fun path same => open_ path (Walk.place.inj same)) with
        ⟨dir, first, second⟩ | ⟨_, _, _, _, isLink⟩
      · exact ⟨dir, 0, .place first, .place second⟩
      · cases isLink
  | link walked onward ih =>
      subst whole
      rcases walk_append more walked (fun _ isPlace => by cases isPlace) with
        ⟨dir, first, second⟩ | ⟨_, _, between, first, isLink⟩
      · exact ⟨dir, _, .place first, .link second onward⟩
      · cases isLink
        obtain ⟨dir, fewer, front, last⟩ := ih open_ (List.append_assoc _ _ _)
        exact ⟨dir, fewer, .link first front, last⟩

/-- From a directory a walk goes on along further parts. -/
theorem walk_append_of_directory {front : List Text}
    (walked : tree.walk follow here front = .ok (.place (.entry dir .directory)))
    (rest : List Text) : tree.walk follow here (front ++ rest) = tree.walk follow dir rest := by
  induction front generalizing here with
  | nil =>
      cases walked
      rfl
  | cons part front ih =>
      rcases walk_cases walked with ⟨next, move, onward⟩ | ends
      · rw [List.cons_append, move.walk_eq]
        exact ih onward
      · cases ends

/-- Further parts stand behind those that are left at a link. -/
theorem walk_append_of_link {front between : List Text} {target : Text}
    (walked : tree.walk true here front = .ok (.link dir target between)) (rest : List Text) :
    tree.walk true here (front ++ rest) = .ok (.link dir target (between ++ rest)) := by
  induction front generalizing here with
  | nil => cases walked
  | cons part front ih =>
      rcases walk_cases walked with ⟨next, move, onward⟩ | ends
      · rw [List.cons_append, move.walk_eq]
        exact ih onward
      · cases ends with
        | link name found inner => exact (Ends.link name found fun _ => rfl).walk_eq

/-- From a directory parts lead on along further parts. -/
theorem Leads.append {links : Nat} {front rest : List Text} {found : Place}
    (h : Leads tree true links here front (.entry dir .directory))
    (onward : tree.walk true dir rest = .ok (.place found)) :
    Leads tree true links here (front ++ rest) found := by
  generalize isDirectory : Place.entry dir .directory = middle at h
  induction h with
  | place walked =>
      subst isDirectory
      exact .place ((walk_append_of_directory walked rest).trans onward)
  | link walked _ ih =>
      have through := ih isDirectory
      rw [List.append_assoc] at through
      exact .link (walk_append_of_link walked rest) through

/-- Parts that are empty lead nowhere else. -/
theorem walk_of_blank {parts : List Text} (blank : ∀ part ∈ parts, part = []) :
    tree.walk follow here parts = .ok (.place (.entry here .directory)) := by
  induction parts with
  | nil => rfl
  | cons part rest ih =>
      have passed : Moves tree here part here := .stay (Or.inl (blank part List.mem_cons_self))
      rw [passed.walk_eq]
      exact ih fun part among => blank part (List.mem_cons_of_mem _ among)

/-! ## Names in a directory -/

/-- A walk along a name in a directory comes to no other place for a file than the one of
that name. -/
theorem place_of_walk {name : Text} {found : Place}
    (walked : tree.walk follow dir [name] = .ok (.place found))
    (at_ : found.filePath? = some place) : place = dir ++ [name] := by
  rcases walk_cases walked with ⟨next, move, onward⟩ | ends
  · cases onward
    cases at_
  · cases ends with
    | file | vacant =>
        cases at_
        rfl
    | lastLink => cases at_

/-- Without links no walk comes to one. -/
theorem LinkFree.walk_ne_link (h : tree.LinkFree) {parts rest : List Text} {target : Text} :
    tree.walk follow here parts ≠ .ok (.link dir target rest) := by
  intro walked
  induction parts generalizing here with
  | nil => cases walked
  | cons part front ih =>
      rcases walk_cases walked with ⟨next, -, onward⟩ | ends
      · exact ih onward
      · cases ends with
        | link name found inner => exact h _ _ found

/-- Without links parts lead where a walk along them ends. -/
theorem LinkFree.walk_of_leads (h : tree.LinkFree) {links : Nat} {parts : List Text}
    {found : Place} (leads : Leads tree follow links here parts found) :
    tree.walk follow here parts = .ok (.place found) := by
  cases leads with
  | place walked => exact walked
  | link walked _ => exact absurd walked h.walk_ne_link

/-! ## Paths as texts -/

/-- The directory that a path is looked up from. -/
def startOf (tree : FileTree) (path : Text) : List Text :=
  if Path.isAbsolute path then [] else tree.workingDirectory

theorem size_append (a b : Text) : size (a ++ b) = size a + size b := by
  rw [size, Utf8.encode, List.flatMap_append, List.length_append]
  rfl

/-- When a path leads to a place. -/
theorem locate_eq_ok_iff {found : Place} :
    tree.locate follow path = .ok found ↔
      '\x00' ∉ path ∧ path ≠ [] ∧ size path < maxPathLength ∧
        Leads tree follow maxLinks (tree.startOf path) (Path.parts path) found := by
  rw [locate, ← resolve_eq_ok_iff]
  by_cases null : '\x00' ∈ path
  · simp [null]
  by_cases empty : path = []
  · simp [empty]
  by_cases long : size path ≥ maxPathLength
  · simp [null, empty, long, Nat.not_lt.mpr long]
  simp only [List.elem_eq_mem, null, decide_false, Bool.false_eq_true, if_false,
    List.isEmpty_iff, empty, long, startOf]
  cases tree.resolve follow maxLinks _ (Path.parts path) with
  | ok other => simp [empty, Nat.lt_of_not_ge long]
  | error kind => simp

theorem hasDirectory_iff :
    tree.hasDirectory path ↔ ∃ dir, tree.locate true path = .ok (.entry dir .directory) := by
  rw [hasDirectory, find?]
  cases located : tree.locate true path with
  | error e => simp
  | ok found =>
      cases found with
      | vacant => simp
      | entry dir entry => simp

theorem has_of_hasDirectory (h : tree.hasDirectory path) : tree.has path := by
  rw [hasDirectory, decide_eq_true_eq] at h
  rw [has, h]
  rfl

/-- A path leads in a later tree where it led before. -/
theorem Keeps.locate_eq (h : Keeps tree later) {before after : Place}
    (located : tree.locate follow path = .ok before) (becomes : Becomes later before after) :
    later.locate follow path = .ok after := by
  obtain ⟨null, nonempty, short, leads⟩ := locate_eq_ok_iff.mp located
  refine locate_eq_ok_iff.mpr ⟨null, nonempty, short, ?_⟩
  rw [startOf, h.home, ← startOf]
  exact h.leads leads becomes

/-- Where a path leads to a place that can be written to, a file can be put there. -/
theorem takes_of_locate {found : Place} (located : tree.locate follow path = .ok found)
    (at_ : found.filePath? = some place) : tree.Takes place := by
  obtain ⟨-, -, -, leads⟩ := locate_eq_ok_iff.mp located
  exact leads.isIn.takes at_

/-- What leads to a directory does so in every later tree. -/
theorem Keeps.hasDirectory (h : Keeps tree later) (found : tree.hasDirectory path) :
    later.hasDirectory path := by
  obtain ⟨dir, located⟩ := hasDirectory_iff.mp found
  exact hasDirectory_iff.mpr ⟨dir, h.locate_eq located (.directory dir)⟩

/-- What stands before a path that leads somewhere can be looked up as well. -/
theorem locate_of_prefix {front : Text} (start : front <+: path) (nonempty : front ≠ [])
    {found other : Place} (located : tree.locate true path = .ok found)
    (leads : Leads tree true maxLinks (tree.startOf path) (Path.parts front) other) :
    tree.locate true front = .ok other := by
  obtain ⟨null, -, short, -⟩ := locate_eq_ok_iff.mp located
  obtain ⟨rest, rfl⟩ := start
  have same : tree.startOf (front ++ rest) = tree.startOf front := by
    rw [startOf, Path.isAbsolute, List.head?_append_of_ne_nil _ nonempty]
    rfl
  rw [size_append] at short
  rw [same] at leads
  exact locate_eq_ok_iff.mpr ⟨fun inFront => null (List.mem_append_left _ inFront), nonempty,
    by omega, leads⟩

/-- The directory of a path that leads somewhere is there. -/
theorem hasDirectory_directory {found : Place} (located : tree.locate true path = .ok found)
    (open_ : ∀ path, found ≠ .vacant path true) (some : Path.directory path ≠ []) :
    tree.hasDirectory (Path.directory path) := by
  obtain ⟨-, -, -, leads⟩ := locate_eq_ok_iff.mp located
  rcases Path.directory_cases path with none | ⟨-, start, slashes⟩ | ⟨rest, -, whole⟩
  · exact absurd none some
  · have blank : ∀ part ∈ Path.parts (Path.directory path), part = [] :=
      fun part among => Path.eq_nil_of_mem_parts slashes among
    exact hasDirectory_iff.mpr ⟨_, locate_of_prefix start some located
      (.place (walk_of_blank blank))⟩
  · have parts := Path.parts_append (Path.directory path) rest
    rw [← whole] at parts
    rw [parts] at leads
    obtain ⟨dir, _, first, -⟩ := leads.split (Path.parts_ne_nil rest) open_
    have start : Path.directory path <+: path := ⟨'/' :: rest, whole.symm⟩
    exact hasDirectory_iff.mpr ⟨dir, locate_of_prefix start some located first⟩

/-- A path is that of a name in the directory that `target` leads to. -/
def IsChild (tree : FileTree) (target name : Text) (path : List Text) : Prop :=
  ∃ dir, tree.locate true target = .ok (.entry dir .directory) ∧ path = dir ++ [name]

/-- There is one name to a path. -/
theorem IsChild.name_eq {target name other : Text} (h : IsChild tree target name place)
    (h' : IsChild tree target other place) : name = other := by
  obtain ⟨dir, located, rfl⟩ := h
  obtain ⟨dir', located', same⟩ := h'
  rw [located] at located'
  cases located'
  simpa using same

theorem IsChild.keeps {target name : Text} (h : IsChild tree target name place)
    (keeps : Keeps tree later) : IsChild later target name place := by
  obtain ⟨dir, located, same⟩ := h
  exact ⟨dir, keeps.locate_eq located (.directory dir), same⟩

/-- Without links a name joined to a directory leads into that directory. -/
theorem LinkFree.isChild_of_locate (h : tree.LinkFree) {target name : Text} (some_ : target ≠ [])
    (flat : '/' ∉ name) {found : Place}
    (located : tree.locate true (Path.join target name) = .ok found)
    (at_ : found.filePath? = some place) : IsChild tree target name place := by
  obtain ⟨front, parts, ofTarget⟩ := Path.parts_join some_ flat
  obtain ⟨-, -, -, leads⟩ := locate_eq_ok_iff.mp located
  rw [parts] at leads
  obtain ⟨dir, fewer, first, second⟩ :=
    leads.split (List.cons_ne_nil _ _) (Place.ne_vacant_of_filePath? at_)
  refine ⟨dir, ?_, place_of_walk (h.walk_of_leads second) at_⟩
  apply locate_of_prefix (Path.prefix_join flat) some_ located
  rcases ofTarget with same | slash
  · rw [same]
    exact first
  · rw [slash]
    exact first.append (walk_of_blank (by simp))

/-! ## Writing and reading -/

/-- A file that was written is where its path leads. -/
theorem locate_of_write {octets : List UInt8} (h : tree.write path octets = .ok later) :
    ∃ place, place ≠ [] ∧ later.entry? place = some (.file octets) ∧
      later.locate true path = .ok (.entry place (.file octets)) := by
  have put : ∀ {found : Place} {place : List Text}, tree.locate true path = .ok found →
      found.filePath? = some place → later = tree.put place (.file octets) →
      ∃ place, place ≠ [] ∧ later.entry? place = some (.file octets) ∧
        later.locate true path = .ok (.entry place (.file octets)) := by
    rintro found place located at_ rfl
    have takes := takes_of_locate located at_
    have now : FileTree.entry? (tree.put place (.file octets)) place = some (.file octets) := by
      rw [entry?_put takes.below, if_pos rfl]
    exact ⟨place, takes.below, now, (takes.keeps octets).locate_eq located (.file at_ now)⟩
  rw [write] at h
  split at h
  · cases h
  · exact put ‹_› rfl (Except.ok.inj h).symm
  · exact put ‹_› rfl (Except.ok.inj h).symm
  · cases h

/-- The octets that were written are read again. -/
theorem read_of_write {octets : List UInt8} (h : tree.write path octets = .ok later) :
    later.read path = .ok octets := by
  obtain ⟨place, -, -, located⟩ := locate_of_write h
  rw [read, located]

/-- There is something where a file was written. -/
theorem has_of_write {octets : List UInt8} (h : tree.write path octets = .ok later) :
    later.has path = true := by
  obtain ⟨place, -, -, located⟩ := locate_of_write h
  rw [has, find?, located]
  rfl

/-- Writing the same octets again changes nothing. -/
theorem write_of_write {octets : List UInt8} (h : tree.write path octets = .ok later) :
    later.write path octets = .ok later := by
  obtain ⟨place, below, now, located⟩ := locate_of_write h
  rw [write, located]
  exact congrArg Except.ok (put_eq_self below now)

end FileTree

end ClientGen
