/-
# Plans are one-to-one

The search for names ends because every name that is taken rules out at most one
number: the candidates of a stem are distinct.  So a new entry always gets a module
and a class that no entry has, and from this one step everything about a run of
registrations follows by induction: names stay distinct, the sets of taken names
are the names of the entries, and the entries only grow at the end.

What two tags share of their stems plays no part in it, and nothing is assumed
about the tags.
-/
import ClientGen.Plan
import ClientGen.Proofs.Names
import ClientGen.Proofs.Ordered
import Mathlib.Data.List.Nodup

namespace ClientGen.Plan

/-! ## Candidates -/

/-- Different numbers have different marks. -/
theorem mark_injective {m n : Nat} (hm : 1 ≤ m) (hn : 1 ≤ n) (h : mark m = mark n) : m = n := by
  by_cases firstM : m ≤ 1
  · by_cases firstN : n ≤ 1
    · omega
    · rw [mark, mark, if_pos firstM, if_neg firstN] at h
      exact absurd h.symm (Text.ofNat_ne_nil n)
  · by_cases firstN : n ≤ 1
    · rw [mark, mark, if_neg firstM, if_pos firstN] at h
      exact absurd h (Text.ofNat_ne_nil m)
    · rw [mark, mark, if_neg firstM, if_neg firstN] at h
      exact Text.ofNat_injective h

/-- The marks hold digits. -/
theorem isAsciiDigit_of_mem_mark {n : Nat} {c : Char} (h : c ∈ mark n) :
    Text.isAsciiDigit c = true := by
  rw [mark] at h
  split at h
  · cases h
  · exact Text.isAsciiDigit_of_mem_ofNat h

/-- What stands between a stem of modules and the ending. -/
def moduleMark (n : Nat) : Text := if n ≤ 1 then [] else "_" ++ mark n

/-- A candidate for a module is the stem, the mark and the ending. -/
theorem moduleCandidate_eq (stem : Text) (n : Nat) :
    moduleCandidate stem n = stem ++ moduleMark n ++ Naming.moduleSuffix := by
  rw [moduleCandidate, moduleMark]
  split
  · rw [List.append_nil]
  · rw [List.append_assoc stem]

/-- Different numbers give different candidates for a module. -/
theorem moduleCandidate_injective {stem : Text} {m n : Nat} (hm : 1 ≤ m) (hn : 1 ≤ n)
    (h : moduleCandidate stem m = moduleCandidate stem n) : m = n := by
  rw [moduleCandidate_eq, moduleCandidate_eq, List.append_cancel_right_eq,
    List.append_cancel_left_eq] at h
  by_cases firstM : m ≤ 1
  · by_cases firstN : n ≤ 1
    · omega
    · rw [moduleMark, moduleMark, if_pos firstM, if_neg firstN] at h
      cases h
  · by_cases firstN : n ≤ 1
    · rw [moduleMark, moduleMark, if_neg firstM, if_pos firstN] at h
      cases h
    · rw [moduleMark, moduleMark, if_neg firstM, if_neg firstN, List.append_cancel_left_eq] at h
      exact mark_injective hm hn h

/-- Different numbers give different candidates for a class. -/
theorem classCandidate_injective {stem : Text} {m n : Nat} (hm : 1 ≤ m) (hn : 1 ≤ n)
    (h : classCandidate stem m = classCandidate stem n) : m = n := by
  rw [classCandidate, classCandidate, List.append_cancel_right_eq,
    List.append_cancel_left_eq] at h
  exact mark_injective hm hn h

/-- Every candidate for the module of a tag is a module name. -/
theorem isModuleName_moduleCandidate (tag : Text) (n : Nat) :
    Naming.IsModuleName (moduleCandidate (Naming.moduleStem tag) n) := by
  rw [moduleCandidate_eq]
  apply (Naming.spelled_moduleStem tag).append
  intro x hx
  rw [moduleMark] at hx
  split at hx
  · cases hx
  · rcases List.mem_append.mp hx with underscore | inMark
    · rw [List.mem_singleton.mp underscore]
      decide
    · simp [Naming.isModuleChar, isAsciiDigit_of_mem_mark inMark]

/-- Every candidate for the class of a tag is a class name. -/
theorem isClassName_classCandidate (tag : Text) (n : Nat) :
    Naming.IsClassName (classCandidate (Naming.classStem tag) n) := by
  apply (Naming.spelled_classStem tag).append
  intro x hx
  simp [Identifier.isWordChar, Text.isAsciiWord, isAsciiDigit_of_mem_mark hx]

/-! ## The search for a number -/

/-- The search goes through taken numbers only, and where it stops before its
tries are used up it has found a number that is not taken. -/
theorem firstFree_spec (p : Plan) (moduleStem classStem : Text) (tries n : Nat) :
    n ≤ p.firstFree moduleStem classStem tries n ∧
      (∀ k, n ≤ k → k < p.firstFree moduleStem classStem tries n →
        p.isTaken moduleStem classStem k = true) ∧
      (p.firstFree moduleStem classStem tries n = n + tries ∨
        p.isTaken moduleStem classStem (p.firstFree moduleStem classStem tries n) = false) := by
  induction tries generalizing n with
  | zero =>
      refine ⟨Nat.le_refl n, ?_, Or.inl rfl⟩
      intro k low high
      exact absurd low (Nat.not_le_of_lt high)
  | succ tries ih =>
      rw [firstFree]
      by_cases taken : p.isTaken moduleStem classStem n
      · rw [if_pos taken]
        obtain ⟨low, before, stop⟩ := ih (n + 1)
        refine ⟨by omega, ?_, ?_⟩
        · intro k from_n below
          by_cases here : k = n
          · rw [here]
            exact taken
          · exact before k (by omega) below
        · rcases stop with out | free
          · exact Or.inl (by omega)
          · exact Or.inr free
      · rw [if_neg taken]
        refine ⟨Nat.le_refl n, ?_, Or.inr (by simpa using taken)⟩
        intro k low high
        exact absurd low (Nat.not_le_of_lt high)

/-- Numbers whose candidates are among given names are at most as many as the
names. -/
theorem length_le_of_candidates (candidate : Nat → Text) {taken : List Text} {numbers : List Nat}
    (injective : ∀ m ∈ numbers, ∀ n ∈ numbers, candidate m = candidate n → m = n)
    (once : numbers.Nodup) (among : ∀ n ∈ numbers, candidate n ∈ taken) :
    numbers.length ≤ taken.length := by
  have distinct : (numbers.map candidate).Nodup :=
    List.Nodup.map_on (fun m hm n hn => injective m hm n hn) once
  have inside : numbers.map candidate ⊆ taken := by
    intro name hname
    obtain ⟨n, hn, rfl⟩ := List.mem_map.mp hname
    exact among n hn
  have le := List.Nodup.length_le_of_subset distinct inside
  rwa [List.length_map] at le

/-- Where the first numbers are all taken, they are at most as many as the names
that are taken. -/
theorem le_of_isTaken (p : Plan) {moduleStem classStem : Text} (count : Nat)
    (taken : ∀ k, 1 ≤ k → k ≤ count → p.isTaken moduleStem classStem k = true) :
    count ≤ p.modules.length + p.classes.length := by
  let numbers := List.range' 1 count
  let byModule := fun k => p.modules.contains (moduleCandidate moduleStem k)
  have positive : ∀ k ∈ numbers, 1 ≤ k ∧ k ≤ count := by
    intro k hk
    obtain ⟨i, hi, rfl⟩ := List.mem_range'.mp hk
    omega
  have once : numbers.Nodup := List.nodup_range' 1
  have modules : (numbers.filter byModule).length ≤ p.modules.length := by
    refine length_le_of_candidates (moduleCandidate moduleStem) ?_ (once.filter _) ?_
    · intro m hm n hn same
      exact moduleCandidate_injective (positive m (List.mem_of_mem_filter hm)).1
        (positive n (List.mem_of_mem_filter hn)).1 same
    · intro k hk
      exact List.contains_iff_mem.mp (List.mem_filter.mp hk).2
  have classes : (numbers.filter (! byModule ·)).length ≤ p.classes.length := by
    refine length_le_of_candidates (classCandidate classStem) ?_ (once.filter _) ?_
    · intro m hm n hn same
      exact classCandidate_injective (positive m (List.mem_of_mem_filter hm)).1
        (positive n (List.mem_of_mem_filter hn)).1 same
    · intro k hk
      obtain ⟨inNumbers, noModule⟩ := List.mem_filter.mp hk
      have isTaken := taken k (positive k inNumbers).1 (positive k inNumbers).2
      rw [Plan.isTaken, Bool.or_eq_true] at isTaken
      rcases isTaken with module | class'
      · exact absurd module (by simpa [byModule] using noModule)
      · exact List.contains_iff_mem.mp class'
  have total := List.length_eq_length_filter_add (l := numbers) byModule
  have length : numbers.length = count := List.length_range'
  omega

/-- The number that a new tag gets is free, and all before it are taken. -/
theorem freeNumber_spec (p : Plan) (tag : Text) :
    1 ≤ p.freeNumber tag ∧
      (∀ k, 1 ≤ k → k < p.freeNumber tag →
        p.isTaken (Naming.moduleStem tag) (Naming.classStem tag) k = true) ∧
      p.isTaken (Naming.moduleStem tag) (Naming.classStem tag) (p.freeNumber tag) = false := by
  obtain ⟨low, before, stop⟩ := firstFree_spec p (Naming.moduleStem tag) (Naming.classStem tag)
    (p.modules.length + p.classes.length + 1) 1
  refine ⟨low, before, ?_⟩
  rcases stop with out | free
  · have count := le_of_isTaken p (p.freeNumber tag - 1) fun k from_one below =>
      before k from_one (by rw [← freeNumber]; omega)
    rw [← freeNumber] at out
    omega
  · exact free

/-- The names of a new entry are not taken. -/
theorem newEntry_not_taken (p : Plan) (tag : Text) (operationCount : Int) :
    (p.newEntry tag operationCount).moduleName ∉ p.modules ∧
      (p.newEntry tag operationCount).className ∉ p.classes := by
  have free := (freeNumber_spec p tag).2.2
  rw [isTaken, Bool.or_eq_false_iff] at free
  constructor
  · intro among
    exact absurd (List.contains_iff_mem.mpr among) (Bool.eq_false_iff.mp free.1)
  · intro among
    exact absurd (List.contains_iff_mem.mpr among) (Bool.eq_false_iff.mp free.2)

/-! ## One registration -/

/-- What a registration does: a known tag gets its entry and changes nothing, and
a new tag gets a new entry, which goes to the end. -/
theorem register_cases (p : Plan) (tag : Text) (operationCount : Int) :
    (∃ entry, p.find? tag = some entry ∧ p.register tag operationCount = (entry, p)) ∨
      (p.find? tag = none ∧ p.register tag operationCount =
        (p.newEntry tag operationCount, p.add (p.newEntry tag operationCount))) := by
  rw [register]
  cases h : p.find? tag with
  | some entry => exact Or.inl ⟨entry, rfl, rfl⟩
  | none => exact Or.inr ⟨rfl, rfl⟩

/-- A new entry is of the tag registered. -/
@[simp]
theorem newEntry_tag (p : Plan) (tag : Text) (operationCount : Int) :
    (p.newEntry tag operationCount).tag = tag := rfl

/-- A new entry has the count registered. -/
@[simp]
theorem newEntry_operationCount (p : Plan) (tag : Text) (operationCount : Int) :
    (p.newEntry tag operationCount).operationCount = operationCount := rfl

/-- The tags of the entries. -/
def tags (p : Plan) : List Text := p.entries.map (·.tag)

/-- A tag without an entry is the tag of none. -/
theorem find?_eq_none_iff {p : Plan} {tag : Text} : p.find? tag = none ↔ tag ∉ p.tags := by
  rw [find?, List.find?_eq_none, tags, List.mem_map]
  constructor
  · rintro h ⟨e, among, same⟩
    exact h e among (by simpa using same)
  · intro h e among same
    exact h ⟨e, among, by simpa using same⟩

/-- The entry found for a tag is an entry of that tag. -/
theorem mem_of_find? {p : Plan} {tag : Text} {entry : PlanEntry} (h : p.find? tag = some entry) :
    entry ∈ p.entries ∧ entry.tag = tag := by
  rw [find?] at h
  exact ⟨List.mem_of_find?_eq_some h, by simpa using List.find?_some h⟩

/-- A plan in which nothing is given twice: tags, modules and classes are
distinct, the sets of taken names are the names of the entries, and every name is
spelled as it should be. -/
structure Sound (p : Plan) : Prop where
  tags_nodup : p.tags.Nodup
  modules_nodup : p.moduleNames.Nodup
  classes_nodup : p.classNames.Nodup
  modules_eq : p.modules = p.moduleNames
  classes_eq : p.classes = p.classNames
  spelled : ∀ e ∈ p.entries, Naming.IsModuleName e.moduleName ∧ Naming.IsClassName e.className

/-- The empty plan is sound. -/
theorem sound_empty : Sound {} where
  tags_nodup := List.nodup_nil
  modules_nodup := List.nodup_nil
  classes_nodup := List.nodup_nil
  modules_eq := rfl
  classes_eq := rfl
  spelled := by
    intro e he
    cases he

/-- An element that a list lacks may go to its end. -/
theorem nodup_concat {l : List Text} {name : Text} (h : l.Nodup) (new : name ∉ l) :
    (l ++ [name]).Nodup := by
  rw [← List.concat_eq_append]
  exact h.concat new

/-- A registration keeps a plan sound. -/
theorem Sound.register {p : Plan} (h : p.Sound) (tag : Text) (operationCount : Int) :
    (p.register tag operationCount).2.Sound := by
  rcases register_cases p tag operationCount with ⟨entry, -, same⟩ | ⟨new, added⟩
  · rw [same]
    exact h
  · rw [added]
    obtain ⟨newModule, newClass⟩ := newEntry_not_taken p tag operationCount
    rw [h.modules_eq] at newModule
    rw [h.classes_eq] at newClass
    refine ⟨?_, ?_, ?_, ?_, ?_, ?_⟩
    · simpa [tags, add] using nodup_concat h.tags_nodup (find?_eq_none_iff.mp new)
    · simpa [moduleNames, add] using nodup_concat h.modules_nodup newModule
    · simpa [classNames, add] using nodup_concat h.classes_nodup newClass
    · simp [add, moduleNames, h.modules_eq]
    · simp [add, classNames, h.classes_eq]
    · intro e he
      rcases List.mem_append.mp he with old | isNew
      · exact h.spelled e old
      · rw [List.mem_singleton.mp isNew]
        exact ⟨isModuleName_moduleCandidate tag _, isClassName_classCandidate tag _⟩

/-- A registration only adds at the end. -/
theorem entries_prefix_register (p : Plan) (tag : Text) (operationCount : Int) :
    p.entries <+: (p.register tag operationCount).2.entries := by
  rcases register_cases p tag operationCount with ⟨entry, -, same⟩ | ⟨-, added⟩
  · simp [same]
  · rw [added]
    exact List.prefix_append _ _

/-- In a sound plan an entry is found by its tag. -/
theorem Sound.find?_tag {p : Plan} (h : p.Sound) {e : PlanEntry} (among : e ∈ p.entries) :
    p.find? e.tag = some e := by
  cases found : p.find? e.tag with
  | none => exact absurd (List.mem_map_of_mem among) (find?_eq_none_iff.mp found)
  | some other =>
      obtain ⟨otherAmong, sameTag⟩ := mem_of_find? found
      rw [List.inj_on_of_nodup_map h.tags_nodup otherAmong among sameTag]

/-- Registering the tag of an entry again gives the entry and changes nothing. -/
theorem Sound.register_tag {p : Plan} (h : p.Sound) {e : PlanEntry} (among : e ∈ p.entries)
    (operationCount : Int) : p.register e.tag operationCount = (e, p) := by
  rw [Plan.register, h.find?_tag among]

/-! ## Runs of registrations -/

/-- Registrations keep a plan sound. -/
theorem Sound.registerAll {p : Plan} (h : p.Sound) (calls : List (Text × Int)) :
    (p.registerAll calls).Sound := by
  induction calls generalizing p with
  | nil => exact h
  | cons call rest ih => exact ih (h.register call.1 call.2)

/-- Registrations only add at the end. -/
theorem entries_prefix_registerAll (p : Plan) (calls : List (Text × Int)) :
    p.entries <+: (p.registerAll calls).entries := by
  induction calls generalizing p with
  | nil => exact List.prefix_rfl
  | cons call rest ih => exact (entries_prefix_register p call.1 call.2).trans (ih _)

/-- One registration after a run of them. -/
theorem registerAll_concat (p : Plan) (calls : List (Text × Int)) (tag : Text)
    (operationCount : Int) :
    p.registerAll (calls ++ [(tag, operationCount)]) =
      ((p.registerAll calls).register tag operationCount).2 := by
  rw [registerAll, List.foldl_append]
  rfl

/-- A run is as good as its parts one after the other. -/
theorem registerAll_append (p : Plan) (calls more : List (Text × Int)) :
    p.registerAll (calls ++ more) = (p.registerAll calls).registerAll more :=
  List.foldl_append

/-- The tags of a plan made by registrations are the distinct tags, in the order
in which they were first registered. -/
theorem tags_registerAll (calls : List (Text × Int)) :
    (registerAll calls {}).tags = Ordered.distinct (calls.map (·.1)) := by
  induction calls using List.reverseRecOn with
  | nil => rfl
  | append_singleton calls call ih =>
      obtain ⟨tag, operationCount⟩ := call
      rw [registerAll_concat, List.map_append, List.map_singleton, Ordered.distinct_concat, ← ih]
      rcases register_cases (registerAll calls {}) tag operationCount with
        ⟨entry, found, same⟩ | ⟨new, added⟩
      · have known : tag ∈ calls.map (·.1) := by
          obtain ⟨among, rfl⟩ := mem_of_find? found
          have inTags : entry.tag ∈ (registerAll calls {}).tags := List.mem_map_of_mem among
          rw [ih] at inTags
          exact Ordered.mem_distinct.mp inTags
        rw [same, if_pos known]
      · have unknown : tag ∉ calls.map (·.1) := by
          have notInTags := find?_eq_none_iff.mp new
          rw [ih] at notInTags
          exact fun among => notInTags (Ordered.mem_distinct.mpr among)
        rw [added, if_neg unknown]
        simp [tags, add, newEntry]

/-- The count of an entry is the count of the first registration of its tag. -/
theorem find?_call_of_mem (calls : List (Text × Int)) :
    ∀ e ∈ (registerAll calls {}).entries,
      calls.find? (·.1 = e.tag) = some (e.tag, e.operationCount) := by
  induction calls using List.reverseRecOn with
  | nil =>
      intro e he
      cases he
  | append_singleton calls call ih =>
      obtain ⟨tag, operationCount⟩ := call
      intro e he
      rw [registerAll_concat] at he
      rw [List.find?_append]
      rcases register_cases (registerAll calls {}) tag operationCount with
        ⟨entry, -, same⟩ | ⟨new, added⟩
      · rw [same] at he
        rw [ih e he]
        rfl
      · rw [added] at he
        rcases List.mem_append.mp he with old | isNew
        · rw [ih e old]
          rfl
        · have unknown : calls.find? (·.1 = tag) = none := by
            have notInTags := find?_eq_none_iff.mp new
            rw [tags_registerAll] at notInTags
            rw [List.find?_eq_none]
            intro call among same
            have same : call.1 = tag := by simpa using same
            exact notInTags (Ordered.mem_distinct.mpr (same ▸ List.mem_map_of_mem among))
          rw [List.mem_singleton.mp isNew, newEntry_tag, newEntry_operationCount, unknown]
          simp

/-! ## The plan of a run -/

/-- File names of module names are in small letters. -/
theorem lower_fileName {e : PlanEntry} (h : Naming.IsModuleName e.moduleName) :
    Text.lower e.fileName = e.fileName := by
  have fileChars : Text.Only Naming.isFileChar e.fileName := by
    intro c hc
    rcases List.mem_append.mp hc with inModule | inEnding
    · simp [Naming.isFileChar, h.only c inModule]
    · have ending : Text.Only Naming.isFileChar ".py" := by decide
      exact ending c inEnding
  exact Text.lower_eq_self (fun c hc => (Naming.ascii_of_isFileChar (fileChars c hc)).1)
    (fun c hc => (Naming.ascii_of_isFileChar (fileChars c hc)).2)

/-- The file names of a sound plan are distinct, also where capitals and small
letters count as the same. -/
theorem Sound.nodup_lower_fileNames {p : Plan} (h : p.Sound) :
    (p.entries.map fun e => Text.lower e.fileName).Nodup := by
  have same : (p.entries.map fun e => Text.lower e.fileName) =
      p.moduleNames.map (· ++ ".py".toList) := by
    rw [moduleNames, List.map_map]
    exact List.map_congr_left fun e among => lower_fileName (h.spelled e among).1
  rw [same]
  exact h.modules_nodup.map (List.append_left_injective ".py".toList)

/-- A plan is one-to-one after any run of registrations.  Its tags are the
distinct tags in the order of their first registration; modules are distinct and
classes are distinct, and the taken names are those of the entries; every name is
spelled as a module or a class is, so file names differ by more than capitals; a
known tag keeps its entry, with its first count; and entries are never changed,
removed or moved, the list only grows at its end. -/
theorem registerAll_one_to_one (calls : List (Text × Int)) :
    let p := registerAll calls {}
    p.entries.map (·.tag) = Ordered.distinct (calls.map (·.1)) ∧
      p.moduleNames.Nodup ∧ p.classNames.Nodup ∧
      (∀ name, name ∈ p.modules ↔ ∃ e ∈ p.entries, e.moduleName = name) ∧
      (∀ name, name ∈ p.classes ↔ ∃ e ∈ p.entries, e.className = name) ∧
      (∀ e ∈ p.entries, Naming.IsModuleName e.moduleName ∧ Naming.IsClassName e.className) ∧
      (p.entries.map fun e => Text.lower e.fileName).Nodup ∧
      (∀ e ∈ p.entries, calls.find? (·.1 = e.tag) = some (e.tag, e.operationCount) ∧
        ∀ operationCount, p.register e.tag operationCount = (e, p)) ∧
      ∀ more, p.entries <+: (registerAll (calls ++ more) {}).entries := by
  intro p
  have sound : p.Sound := sound_empty.registerAll calls
  refine ⟨tags_registerAll calls, sound.modules_nodup, sound.classes_nodup, ?_, ?_, sound.spelled,
    sound.nodup_lower_fileNames, ?_, ?_⟩
  · intro name
    rw [sound.modules_eq, moduleNames, List.mem_map]
  · intro name
    rw [sound.classes_eq, classNames, List.mem_map]
  · intro e among
    exact ⟨find?_call_of_mem calls e among, sound.register_tag among⟩
  · intro more
    rw [registerAll_append]
    exact entries_prefix_registerAll p more

/-- Tags whose names collide in every way: by capitals, by characters that are
dropped, with the number of another tag, with nothing left, and repeated. -/
def collidingCalls : List (Text × Int) :=
  [("users", 1), ("Users", 2), ("users2", 3), ("users 2", 4), ("2fa", 5), ("", 6), ("!!!", 7),
    ("users", 8)]

/-- The entry of the first of the colliding tags. -/
def firstColliding : PlanEntry := ⟨"users", "users_api", "UsersApi", 1⟩

/-- On the colliding tags: seven entries with the least free numbers, each number
for module and class at once, and the tag registered again has its first entry. -/
theorem registerAll_one_to_one_colliding :
    (registerAll collidingCalls {}).entries.map (fun e => (e.moduleName, e.className)) =
        List.map (fun (m, c) => (String.toList m, String.toList c))
          [("users_api", "UsersApi"), ("users_2_api", "Users2Api"),
            ("users2_2_api", "Users22Api"), ("users_2_2_api", "Users_22Api"),
            ("tag_2fa_api", "Tag2faApi"), ("default_api", "DefaultApi"),
            ("default_2_api", "Default2Api")] ∧
      firstColliding ∈ (registerAll collidingCalls {}).entries ∧
      (registerAll collidingCalls {}).register "users" 8 =
        (firstColliding, registerAll collidingCalls {}) := by
  obtain ⟨-, -, -, -, -, -, -, known, -⟩ := registerAll_one_to_one collidingCalls
  have among : firstColliding ∈ (registerAll collidingCalls {}).entries := by decide
  exact ⟨by decide, among, (known firstColliding among).2 8⟩

end ClientGen.Plan
