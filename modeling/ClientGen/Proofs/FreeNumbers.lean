/-
# New tags get the least free number

The search for the names of a new tag is given here as it goes, turn by turn and without a
bound: a pair of which no name is taken ends it, and any other pair leads to the next in one
more turn.  It is compared with the number that the plan computes, whose bounded search
could also stop because its tries are used up.

There are two kinds of names, and either can rule out a number by itself.  Of each kind a
taken name rules out one number at most, so a plan of `n` entries rules out no more than
`2 * n`.  Counting entries would not do for the bound: where modules and classes rule out
different numbers, as in the last example, the search passes all of them.
-/
import ClientGen.Client.Module
import ClientGen.Proofs.Plan

namespace ClientGen.Plan

variable {p : Plan} {tag : Text}

/-! ## The pairs in their order -/

/-- The module and the class that a tag may get: first without a number, then with the
numbers from two on, always the same for both. -/
def namePair (tag : Text) : Nat → Text × Text
  | 0 => (Naming.moduleStem tag ++ "_api", Naming.classStem tag ++ "Api")
  | k + 1 =>
    (Naming.moduleStem tag ++ "_" ++ Text.ofNat (k + 2) ++ "_api",
      Naming.classStem tag ++ Text.ofNat (k + 2) ++ "Api")

/-- The pairs are those of the candidates. -/
theorem namePair_eq (tag : Text) (k : Nat) :
    namePair tag k = (moduleCandidate (Naming.moduleStem tag) (k + 1),
      classCandidate (Naming.classStem tag) (k + 1)) := by
  cases k with
  | zero => simp [namePair, moduleCandidate, classCandidate, mark, Naming.moduleSuffix,
      Naming.classSuffix]
  | succ k => simp [namePair, moduleCandidate, classCandidate, mark, Naming.moduleSuffix,
      Naming.classSuffix]

/-- No pair comes twice. -/
theorem namePair_injective {j k : Nat} (same : namePair tag j = namePair tag k) : j = k := by
  rw [namePair_eq, namePair_eq] at same
  have numbers := moduleCandidate_injective (Nat.le_add_left 1 j) (Nat.le_add_left 1 k)
    (congrArg Prod.fst same)
  exact Nat.succ.inj numbers

/-- The plan has the module or the class of a pair. -/
def Takes (p : Plan) (pair : Text × Text) : Prop := pair.1 ∈ p.modules ∨ pair.2 ∈ p.classes

instance (p : Plan) (pair : Text × Text) : Decidable (p.Takes pair) :=
  inferInstanceAs (Decidable (_ ∨ _))

theorem takes_namePair_iff (k : Nat) :
    p.Takes (namePair tag k) ↔
      p.isTaken (Naming.moduleStem tag) (Naming.classStem tag) (k + 1) = true := by
  rw [Takes, namePair_eq, isTaken, Bool.or_eq_true, List.contains_iff_mem, List.contains_iff_mem]

/-! ## The search -/

/-- From a pair on the search ends after so many turns. -/
inductive Ends (p : Plan) (tag : Text) : (pair turns : Nat) → Prop
  | free {k : Nat} (free : ¬ p.Takes (namePair tag k)) : Ends p tag k 0
  | turn {k turns : Nat} (taken : p.Takes (namePair tag k)) (next : Ends p tag (k + 1) turns) :
      Ends p tag k (turns + 1)

/-- A search goes through taken pairs and ends at a free one. -/
theorem ends_iff {k turns : Nat} :
    Ends p tag k turns ↔
      (∀ j, k ≤ j → j < k + turns → p.Takes (namePair tag j)) ∧
        ¬ p.Takes (namePair tag (k + turns)) := by
  constructor
  · intro ends
    induction ends with
    | free free => exact ⟨fun j from_ below => absurd below (Nat.not_lt.mpr from_), free⟩
    | @turn k turns taken next ih =>
        obtain ⟨others, free⟩ := ih
        rw [show k + 1 + turns = k + (turns + 1) by omega] at others free
        refine ⟨fun j from_ below => ?_, free⟩
        rcases Nat.eq_or_lt_of_le from_ with rfl | later
        · exact taken
        · exact others j later below
  · rintro ⟨before, free⟩
    induction turns generalizing k with
    | zero => exact .free free
    | succ turns ih =>
        rw [show k + (turns + 1) = k + 1 + turns by omega] at before free
        have others := fun j (from_ : k + 1 ≤ j) => before j (Nat.le_of_succ_le from_)
        exact .turn (before k (Nat.le_refl k) (by omega)) (ih others free)

/-- There is one number of turns at most. -/
theorem Ends.unique {k turns turns' : Nat} (ends : Ends p tag k turns)
    (ends' : Ends p tag k turns') : turns = turns' := by
  induction ends generalizing turns' with
  | free free =>
      cases ends' with
      | free => rfl
      | turn taken => exact absurd taken free
  | turn taken next ih =>
      cases ends' with
      | free free => exact absurd taken free
      | turn _ next' => exact congrArg Nat.succ (ih next')

/-- The turns of the search for a new tag: the number that the plan computes is that of
the pair it ends at. -/
def turns (p : Plan) (tag : Text) : Nat := p.freeNumber tag - 1

theorem turns_add_one (p : Plan) (tag : Text) : p.turns tag + 1 = p.freeNumber tag :=
  Nat.sub_add_cancel (freeNumber_spec p tag).1

/-- The search from the first pair on comes to its end. -/
theorem ends_turns (p : Plan) (tag : Text) : Ends p tag 0 (p.turns tag) := by
  obtain ⟨-, before, free⟩ := freeNumber_spec p tag
  rw [ends_iff, Nat.zero_add]
  constructor
  · intro j _ below
    rw [← turns_add_one] at before
    exact (takes_namePair_iff j).mpr (before (j + 1) (Nat.le_add_left 1 j) (by omega))
  · rw [takes_namePair_iff, turns_add_one, free]
    exact Bool.false_ne_true

/-- The search takes no more turns than there are taken names. -/
theorem turns_le (p : Plan) (tag : Text) : p.turns tag ≤ p.modules.length + p.classes.length := by
  obtain ⟨-, before, -⟩ := freeNumber_spec p tag
  rw [← turns_add_one] at before
  exact le_of_isTaken p _ fun k from_one upTo => before k from_one (by omega)

/-! ## Entries and their numbers -/

/-- The entry has the pair of this number. -/
def Numbered (e : PlanEntry) (k : Nat) : Prop :=
  (e.moduleName, e.className) = namePair e.tag k

/-- A new entry has the pair that the search ends at. -/
theorem numbered_newEntry (p : Plan) (tag : Text) (operationCount : Int) :
    Numbered (p.newEntry tag operationCount) (p.turns tag) := by
  rw [Numbered, newEntry_tag, namePair_eq, turns_add_one]
  rfl

/-- After a registration every entry has a number if it had before. -/
theorem numbered_register (numbered : ∀ e ∈ p.entries, ∃ k, Numbered e k) (tag : Text)
    (operationCount : Int) :
    ∀ e ∈ (p.register tag operationCount).2.entries, ∃ k, Numbered e k := by
  intro e among
  rcases register_cases p tag operationCount with ⟨_, -, same⟩ | ⟨-, added⟩
  · rw [same] at among
    exact numbered e among
  · rw [added] at among
    rcases List.mem_append.mp among with old | isNew
    · exact numbered e old
    · rw [List.mem_singleton.mp isNew]
      exact ⟨_, numbered_newEntry p tag operationCount⟩

/-- After any run of registrations every entry has a number. -/
theorem numbered_registerAll (calls : List (Text × Int)) :
    ∀ e ∈ (registerAll calls {}).entries, ∃ k, Numbered e k := by
  induction calls using List.reverseRecOn with
  | nil =>
      intro e among
      cases among
  | append_singleton calls call ih =>
      rw [registerAll_concat]
      exact numbered_register ih call.1 call.2

/-- A new tag gets the first pair of which neither name is taken.  In a plan made by any
registrations, with `n` entries, the search for the names of a tag that has none ends, after
a number of turns that is the only one and at most `2 * n`; every pair before is taken, and
the one it ends at is free and is that of the tag's entry.  So every entry has a module and
a class of the same number, and only one number.  Where the pair without a number is free,
the entry has the names that a module of the tag has for itself. -/
theorem register_least_free (calls : List (Text × Int)) (new : tag ∉ calls.map (·.1))
    (operationCount : Int) :
    let p := registerAll calls {}
    let entry := (p.register tag operationCount).1
    (∃ turns, (∀ other, Ends p tag 0 other ↔ other = turns) ∧
        turns ≤ 2 * p.entries.length ∧
        (∀ k < turns, p.Takes (namePair tag k)) ∧ ¬ p.Takes (namePair tag turns) ∧
        (entry.moduleName, entry.className) = namePair tag turns) ∧
      (∀ e ∈ p.entries, ∃! k, (e.moduleName, e.className) = namePair e.tag k) ∧
      (¬ p.Takes (Naming.tagModuleName tag, Naming.tagClassName tag) →
        (entry.moduleName, entry.className) =
            (Naming.tagModuleName tag, Naming.tagClassName tag) ∧
          ∀ operations encode,
            Client.standaloneModule tag none none operations encode =
              Client.tagModule tag entry.className entry.fileName operations encode) := by
  intro p entry
  have sound : p.Sound := sound_empty.registerAll calls
  have isNew : entry = p.newEntry tag operationCount := by
    rcases register_cases p tag operationCount with ⟨_, found, -⟩ | ⟨-, added⟩
    · obtain ⟨among, rfl⟩ := mem_of_find? found
      have known : _ ∈ p.tags := List.mem_map_of_mem among
      rw [tags_registerAll] at known
      exact absurd (Ordered.mem_distinct.mp known) new
    · exact congrArg Prod.fst added
  have named : Numbered entry (p.turns tag) := isNew ▸ numbered_newEntry p tag operationCount
  have ofTag : entry.tag = tag := isNew ▸ newEntry_tag p tag operationCount
  rw [Numbered, ofTag] at named
  have search := ends_turns p tag
  obtain ⟨before, free⟩ := ends_iff.mp search
  rw [Nat.zero_add] at before free
  refine ⟨⟨p.turns tag, ?_, ?_, fun k below => before k (Nat.zero_le k) below, free, named⟩,
    ?_, ?_⟩
  · exact fun other => ⟨fun ends => ends.unique search, fun same => same ▸ search⟩
  · have bound := turns_le p tag
    rw [sound.modules_eq, sound.classes_eq, moduleNames, classNames, List.length_map,
      List.length_map] at bound
    omega
  · intro e among
    obtain ⟨k, numbered⟩ := numbered_registerAll calls e among
    exact ⟨k, numbered, fun j numbered' => namePair_injective (numbered'.symm.trans numbered)⟩
  · intro firstFree
    have unnumbered : namePair tag 0 = (Naming.tagModuleName tag, Naming.tagClassName tag) := rfl
    rw [← unnumbered] at firstFree ⊢
    have noTurn : p.turns tag = 0 := search.unique (.free firstFree)
    rw [noTurn] at named
    refine ⟨named, fun operations encode => ?_⟩
    obtain ⟨moduleName, className⟩ := Prod.mk.inj named
    rw [PlanEntry.fileName, moduleName, className]
    rfl

/-- Tags that take the second number by a class only and the third by a module only. -/
def crossingCalls : List (Text × Int) := [("users", 1), ("Users2", 2), ("users_3", 3)]

/-- After them a further tag of the first stems takes three turns: for the first pair both
names are taken, for the next one the class, for the third the module. -/
theorem register_least_free_crossing :
    "Users".toList ∉ crossingCalls.map (·.1) ∧
      ((registerAll crossingCalls {}).register "Users" 4).1 =
        ⟨"Users", "users_4_api", "Users4Api", 4⟩ ∧
      ∀ turns, Ends (registerAll crossingCalls {}) "Users" 0 turns ↔ turns = 3 := by
  have new : "Users".toList ∉ crossingCalls.map (·.1) := by decide
  obtain ⟨⟨turns, only, -, -, -, named⟩, -, -⟩ := register_least_free crossingCalls new 4
  have entry : ((registerAll crossingCalls {}).register "Users" 4).1 =
      ⟨"Users", "users_4_api", "Users4Api", 4⟩ := by decide
  rw [entry] at named
  have three : turns = 3 := namePair_injective (named.symm.trans (by decide))
  exact ⟨new, entry, three ▸ only⟩

end ClientGen.Plan
