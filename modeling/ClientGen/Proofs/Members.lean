/-
# What a file holds

A file is built by adding classes, blocks of code and functions, in any sequence and with
any names and orders.  Its text is told from the additions alone: the header and the
imports, and then the parts that are left, sorted by their orders.

All blocks are left, and of the classes of one name the last one, with the functions that
were added to it.  It stands where the first class of the name stood.  Sorting is stable, so
blocks come before classes where the orders are equal; that the result is sorted and has the
given sequence at each order leaves one list.
-/
import ClientGen.Proofs.Code
import ClientGen.Proofs.Ordered
import Mathlib.Data.List.Sort

namespace ClientGen

/-! ## Sorting by a number -/

section

variable {α : Type} {key : α → Int} {l m : List α}

/-- Elements of one number keep their sequence when a list is sorted by the numbers. -/
theorem filter_insertionSort (key : α → Int) (l : List α) (n : Int) :
    (l.insertionSort fun a b => key a ≤ key b).filter (key · = n) = l.filter (key · = n) := by
  have tied : (l.filter (key · = n)).Pairwise fun a b => key a ≤ key b := by
    apply List.pairwise_of_forall_mem_list
    intro a amongA b amongB
    have ofA : key a = n := by simpa using (List.mem_filter.mp amongA).2
    have ofB : key b = n := by simpa using (List.mem_filter.mp amongB).2
    rw [ofA, ofB]
  have kept := (List.sublist_insertionSort tied List.filter_sublist).filter (key · = n)
  rw [List.filter_filter] at kept
  simp only [Bool.and_self] at kept
  have perm := (List.perm_insertionSort (fun a b => key a ≤ key b) l).filter (key · = n)
  exact (kept.eq_of_length perm.length_eq.symm).symm

/-- A list that is sorted by numbers is in their order. -/
theorem pairwise_insertionSort (key : α → Int) (l : List α) :
    (l.insertionSort fun a b => key a ≤ key b).Pairwise fun a b => key a ≤ key b := by
  have total : Std.Total fun a b => key a ≤ key b := ⟨fun a b => Int.le_total (key a) (key b)⟩
  have trans : IsTrans α fun a b => key a ≤ key b := ⟨fun _ _ _ => Int.le_trans⟩
  exact List.pairwise_insertionSort _ l

/-- A list has the elements of another one that has the same sequence at each number. -/
theorem mem_of_filter_eq (same : ∀ n, l.filter (key · = n) = m.filter (key · = n)) {a : α}
    (h : a ∈ l) : a ∈ m := by
  have among : a ∈ l.filter (key · = key a) := List.mem_filter.mpr ⟨h, by simp⟩
  rw [same] at among
  exact List.mem_of_mem_filter among

/-- Sorted lists with the same sequence at each number are the same. -/
theorem eq_of_filter_eq (sortedL : l.Pairwise fun a b => key a ≤ key b)
    (sortedM : m.Pairwise fun a b => key a ≤ key b)
    (same : ∀ n, l.filter (key · = n) = m.filter (key · = n)) : l = m := by
  induction l generalizing m with
  | nil => exact (List.eq_nil_iff_forall_not_mem.mpr fun a among =>
      List.not_mem_nil (mem_of_filter_eq (fun n => (same n).symm) among)).symm
  | cons a l ih =>
      cases m with
      | nil => exact absurd (mem_of_filter_eq same List.mem_cons_self) List.not_mem_nil
      | cons b m =>
          obtain ⟨leastA, restL⟩ := List.pairwise_cons.mp sortedL
          obtain ⟨leastB, restM⟩ := List.pairwise_cons.mp sortedM
          -- each head is an element of the other list, behind its head or the head itself
          have below : key b ≤ key a := by
            rcases List.mem_cons.mp (mem_of_filter_eq same List.mem_cons_self) with rfl | later
            · exact Int.le_refl _
            · exact leastB a later
          have above : key a ≤ key b := by
            rcases List.mem_cons.mp (mem_of_filter_eq (fun n => (same n).symm)
              (List.mem_cons_self (a := b) (l := m))) with rfl | later
            · exact Int.le_refl _
            · exact leastA b later
          have tied : key b = key a := Int.le_antisymm below above
          have heads := same (key a)
          rw [List.filter_cons_of_pos (by simp), List.filter_cons_of_pos (by simp [tied])] at heads
          obtain rfl : a = b := (List.cons.inj heads).1
          have tails : ∀ n, l.filter (key · = n) = m.filter (key · = n) := by
            intro n
            have whole := same n
            by_cases here : key a = n
            · rw [List.filter_cons_of_pos (by simp [here]),
                List.filter_cons_of_pos (by simp [here])] at whole
              exact (List.cons.inj whole).2
            · rwa [List.filter_cons_of_neg (by simp [here]),
                List.filter_cons_of_neg (by simp [here])] at whole
          rw [ih restL restM tails]

end

/-! ## Trimmed texts -/

namespace Text

variable {p : Char → Bool} {t body : Text}

/-- What is left of a text between characters of a kind at both its ends. -/
structure IsTrimmed (p : Char → Bool) (t body : Text) : Prop where
  parts : ∃ front back, t = front ++ body ++ back ∧ Only p front ∧ Only p back
  head : ∀ c, body.head? = some c → p c = false
  last : ∀ c, body.getLast? = some c → p c = false

/-- Trimming a text leaves what is between. -/
theorem isTrimmed_trim (p : Char → Bool) (t : Text) : IsTrimmed p t (trim p t) where
  parts := by
    refine ⟨t.takeWhile p, ((t.dropWhile p).reverse.takeWhile p).reverse, ?_, ?_, ?_⟩
    · have behind := congrArg List.reverse
        (List.takeWhile_append_dropWhile (p := p) (l := (t.dropWhile p).reverse))
      rw [List.reverse_append, List.reverse_reverse] at behind
      rw [List.append_assoc, trim, dropEndWhile, behind, List.takeWhile_append_dropWhile]
    · exact fun c among => List.mem_takeWhile_imp among
    · exact fun c among => List.mem_takeWhile_imp (List.mem_reverse.mp among)
  head := fun _ => not_of_head?_trim
  last := fun _ => not_of_getLast?_trim

/-- Only one text is left between the characters of a kind. -/
theorem isTrimmed_iff : IsTrimmed p t body ↔ body = trim p t := by
  constructor
  · rintro ⟨⟨front, back, rfl, inFront, inBack⟩, head, last⟩
    have noneBehind : dropEndWhile p back = [] := by
      rw [dropEndWhile, List.reverse_eq_nil_iff, List.dropWhile_eq_nil_iff]
      exact fun c among => inBack c (List.mem_reverse.mp among)
    rw [trim, List.append_assoc, List.dropWhile_append_of_pos inFront]
    cases body with
    | nil => rw [List.nil_append, List.dropWhile_eq_nil_iff.mpr inBack]; rfl
    | cons c rest =>
        rw [List.cons_append, List.dropWhile_cons_of_neg (by simp [head c rfl]),
          ← List.cons_append, dropEndWhile_append (dropEndWhile_eq_self last), noneBehind,
          List.append_nil]
  · rintro rfl
    exact isTrimmed_trim p t

end Text

namespace Code

/-! ## Adding to a file -/

/-- Something that is added to a file: a class, a block, or a function to the class that the
file has under a key. -/
inductive Addition
  | ofClass (c : Class)
  | ofBlock (b : Block)
  | ofFunction (key : Text) (f : Function)

/-- What one more element at the end contributes. -/
theorem filterMap_concat {α β : Type} (f : α → Option β) (l : List α) (a : α) :
    (l ++ [a]).filterMap f = l.filterMap f ++ (f a).toList := by
  rw [List.filterMap_append]
  cases given : f a <;> simp [given]

namespace Addition

/-- Adds to a file.  Where there is no class for a function, the file stays as it is. -/
def apply : Addition → File → File
  | ofClass c, file => file.addClass c
  | ofBlock b, file => file.addBlock b
  | ofFunction key f, file => (file.addFunction? key f).getD file

/-- The class that is added. -/
def class? : Addition → Option Class
  | ofClass c => some c
  | _ => none

/-- The block that is added. -/
def block? : Addition → Option Block
  | ofBlock b => some b
  | _ => none

/-- The function that is added to the class under a key. -/
def function? (key : Text) : Addition → Option Function
  | ofFunction k f => if k = key then some f else none
  | _ => none

end Addition

/-- A file after all additions, one after the other. -/
def File.extend (additions : List Addition) (file : File) : File :=
  additions.foldl (fun file addition => addition.apply file) file

/-- The blocks that are added. -/
def addedBlocks (additions : List Addition) : List Block := additions.filterMap Addition.block?

/-- The classes that are added, those that others take the place of included. -/
def addedClasses (additions : List Addition) : List Class := additions.filterMap Addition.class?

/-- A class with functions added to it. -/
def Class.withFunctions (functions : List Function) (c : Class) : Class :=
  functions.foldl (fun c f => c.addFunction f) c

/-- The class is the last one added under a key, with the functions that were added to the
class under the key since then. -/
def IsLatest (additions : List Addition) (key : Text) (c : Class) : Prop :=
  ∃ before added after, additions = before ++ .ofClass added :: after ∧ added.name = key ∧
    (∀ other ∈ addedClasses after, other.name ≠ key) ∧
    c = added.withFunctions (after.filterMap (Addition.function? key))

/-- The classes that are left after all additions: the latest of each name, in the order in
which the names were first added. -/
structure AreLeft (additions : List Addition) (classes : List Class) : Prop where
  names_eq : classes.map (·.name) = Ordered.distinct ((addedClasses additions).map (·.name))
  latest : ∀ c ∈ classes, IsLatest additions c.name c

/-! ## The classes that are left -/

section

variable {additions : List Addition} {addition : Addition} {key : Text} {c c' : Class}

theorem name_withFunctions (functions : List Function) (c : Class) :
    (c.withFunctions functions).name = c.name := by
  induction functions generalizing c with
  | nil => rfl
  | cons f rest ih => exact ih (c.addFunction f)

theorem IsLatest.name_eq (h : IsLatest additions key c) : c.name = key := by
  obtain ⟨before, added, after, -, rfl, -, rfl⟩ := h
  exact name_withFunctions _ added

/-- A class that is added is the latest of its name. -/
theorem isLatest_concat (additions : List Addition) (c : Class) :
    IsLatest (additions ++ [.ofClass c]) c.name c :=
  ⟨additions, c, [], rfl, rfl, fun _ none => absurd none List.not_mem_nil, rfl⟩

/-- The latest class of a name is so after one more addition, unless that is a class of the
name, with the function that is added to it, if it is one. -/
theorem IsLatest.concat (h : IsLatest additions key c)
    (other : ∀ d, addition.class? = some d → d.name ≠ key) :
    IsLatest (additions ++ [addition]) key
      (c.withFunctions (addition.function? key).toList) := by
  obtain ⟨before, added, after, rfl, named, last, rfl⟩ := h
  refine ⟨before, added, after ++ [addition], by simp, named, ?_, ?_⟩
  · intro d among
    rw [addedClasses, filterMap_concat] at among
    rcases List.mem_append.mp among with earlier | new
    · exact last d earlier
    · exact other d (Option.mem_toList.mp new)
  · rw [filterMap_concat, Class.withFunctions, Class.withFunctions, Class.withFunctions,
      List.foldl_append]

/-- A class stands among those that are added. -/
theorem mem_addedClasses (front : List Addition) (c : Class) (back : List Addition) :
    c ∈ addedClasses (front ++ .ofClass c :: back) :=
  List.mem_filterMap.mpr ⟨.ofClass c, by simp, rfl⟩

/-- A name has one latest class. -/
theorem IsLatest.unique (h : IsLatest additions key c) (h' : IsLatest additions key c') :
    c = c' := by
  obtain ⟨before, added, after, rfl, named, last, rfl⟩ := h
  obtain ⟨before', added', after', same, named', last', rfl⟩ := h'
  -- if one of the two were added before the other, a class of the name would be behind it
  rcases List.append_eq_append_iff.mp same with ⟨between, -, rest⟩ | ⟨between, -, rest⟩
  · cases between with
    | nil =>
        obtain ⟨rfl, rfl⟩ : added = added' ∧ after = after' := by simpa using rest
        rfl
    | cons first between =>
        obtain rfl := (List.cons.inj rest).2
        exact absurd named' (last added' (mem_addedClasses between added' after'))
  · cases between with
    | nil =>
        obtain ⟨rfl, rfl⟩ : added' = added ∧ after' = after := by simpa using rest
        rfl
    | cons first between =>
        obtain rfl := (List.cons.inj rest).2
        exact absurd named (last' added (mem_addedClasses between added after))

/-- Lists are the same if a function takes the same values on them and tells the elements of
one from those of the other. -/
theorem eq_of_map_eq {α β : Type} {f : α → β} {l m : List α} (same : l.map f = m.map f)
    (apart : ∀ a ∈ l, ∀ b ∈ m, f a = f b → a = b) : l = m := by
  induction l generalizing m with
  | nil => exact (List.map_eq_nil_iff.mp same.symm).symm
  | cons a l ih =>
      obtain ⟨b, m, rfl, first, rest⟩ := List.map_eq_cons_iff.mp same.symm
      rw [apart a List.mem_cons_self b List.mem_cons_self first.symm,
        ih rest.symm fun c among d among' =>
          apart c (List.mem_cons_of_mem a among) d (List.mem_cons_of_mem b among')]

/-- Additions leave one list of classes. -/
theorem AreLeft.unique {classes classes' : List Class} (h : AreLeft additions classes)
    (h' : AreLeft additions classes') : classes = classes' := by
  apply eq_of_map_eq (h.names_eq.trans h'.names_eq.symm)
  intro c among c' among' named
  exact (h.latest c among).unique (named ▸ h'.latest c' among')

end

/-! ## One addition, and all of them -/

/-- What is known of a file after additions to a file without classes and blocks. -/
structure IsBuilt (additions : List Addition) (file : File) : Prop where
  blocks_eq : file.blocks = addedBlocks additions
  keys_eq : file.classes.map (·.1) = Ordered.distinct ((addedClasses additions).map (·.name))
  latest : ∀ key c, Ordered.get? key file.classes = some c → IsLatest additions key c

namespace IsBuilt

variable {additions : List Addition} {file : File}

/-- A block or a function leaves the names of the classes. -/
theorem keys_concat (h : IsBuilt additions file) {addition : Addition}
    (other : addition.class? = none) :
    file.classes.map (·.1) =
      Ordered.distinct ((addedClasses (additions ++ [addition])).map (·.name)) := by
  rw [h.keys_eq, addedClasses, addedClasses, filterMap_concat, other, Option.toList_none,
    List.append_nil]

/-- A class or a function leaves the blocks. -/
theorem blocks_concat (h : IsBuilt additions file) {addition : Addition}
    (other : addition.block? = none) : file.blocks = addedBlocks (additions ++ [addition]) := by
  rw [h.blocks_eq, addedBlocks, addedBlocks, filterMap_concat, other, Option.toList_none,
    List.append_nil]

theorem addClass (h : IsBuilt additions file) (c : Class) :
    IsBuilt (additions ++ [.ofClass c]) (file.addClass c) where
  blocks_eq := h.blocks_concat rfl
  keys_eq := by
    have names : (addedClasses (additions ++ [.ofClass c])).map (·.name) =
        (addedClasses additions).map (·.name) ++ [c.name] := by
      rw [addedClasses, filterMap_concat, List.map_append]
      rfl
    rw [names, File.addClass]
    exact Ordered.keys_put_of_keys_eq h.keys_eq _ _
  latest := by
    intro key d found
    rw [File.addClass, Ordered.get?_put] at found
    split at found
    · rename_i same
      obtain rfl := Option.some.inj found
      exact same ▸ isLatest_concat additions c
    · rename_i different
      refine (h.latest key d found).concat fun e new => ?_
      obtain rfl := Option.some.inj new
      exact different

theorem addBlock (h : IsBuilt additions file) (b : Block) :
    IsBuilt (additions ++ [.ofBlock b]) (file.addBlock b) where
  blocks_eq := by
    rw [File.addBlock, h.blocks_eq, addedBlocks, addedBlocks, filterMap_concat]
    rfl
  keys_eq := h.keys_concat rfl
  latest := fun key d found => (h.latest key d found).concat fun _ new => by cases new

theorem addFunction (h : IsBuilt additions file) (key : Text) (f : Function) :
    IsBuilt (additions ++ [.ofFunction key f]) ((file.addFunction? key f).getD file) := by
  have noClass : ∀ k d, (Addition.ofFunction key f).class? = some d → d.name ≠ k :=
    fun _ _ new => by cases new
  have elsewhere : ∀ k d, key ≠ k → Ordered.get? k file.classes = some d →
      IsLatest (additions ++ [.ofFunction key f]) k d := by
    intro k d different found
    have stays := (h.latest k d found).concat (noClass k)
    rwa [Addition.function?, if_neg different] at stays
  cases found : Ordered.get? key file.classes with
  | none =>
      have stays : (file.addFunction? key f).getD file = file := by
        rw [File.addFunction?, File.class?, found]
        rfl
      rw [stays]
      refine ⟨h.blocks_concat rfl, h.keys_concat rfl, fun k d foundD => ?_⟩
      apply elsewhere k d _ foundD
      rintro rfl
      rw [found] at foundD
      cases foundD
  | some c =>
      have changes : (file.addFunction? key f).getD file =
          { file with classes := Ordered.put key (c.addFunction f) file.classes } := by
        rw [File.addFunction?, File.class?, found]
        rfl
      have known : key ∈ file.classes.map (·.1) := by
        by_contra absent
        rw [Ordered.get?_eq_none absent] at found
        cases found
      rw [changes]
      refine ⟨h.blocks_concat rfl, ?_, fun k d foundD => ?_⟩
      · rw [Ordered.keys_put, if_pos known]
        exact h.keys_concat rfl
      · rw [Ordered.get?_put] at foundD
        split at foundD
        · rename_i same
          subst same
          have grows := (h.latest key c found).concat (noClass key)
          rw [Addition.function?, if_pos rfl] at grows
          exact Option.some.inj foundD ▸ grows
        · rename_i different
          exact elsewhere k d different foundD

/-- One addition more.  Among them a function is the one that may change nothing, and the one
that changes a class in its place. -/
theorem apply (h : IsBuilt additions file) (addition : Addition) :
    IsBuilt (additions ++ [addition]) (addition.apply file) := by
  cases addition with
  | ofClass c => exact h.addClass c
  | ofBlock b => exact h.addBlock b
  | ofFunction key f => exact h.addFunction key f

/-- All additions. -/
theorem extend (name : Text) (header imports : List Text) (additions : List Addition) :
    IsBuilt additions (File.extend additions ⟨name, header, imports, [], []⟩) := by
  induction additions using List.reverseRecOn with
  | nil => exact ⟨rfl, rfl, fun _ _ none => by cases none⟩
  | append_singleton additions addition ih =>
      rw [File.extend, List.foldl_append]
      exact ih.apply addition

/-- The classes of the file are those that are left. -/
theorem areLeft (h : IsBuilt additions file) : AreLeft additions (file.classes.map (·.2)) := by
  have once : (file.classes.map (·.1)).Nodup := by
    rw [h.keys_eq]
    exact Ordered.nodup_distinct _
  have latest : ∀ entry ∈ file.classes, IsLatest additions entry.1 entry.2 :=
    fun entry among => h.latest _ _ ((Ordered.get?_eq_some_iff once).mpr among)
  constructor
  · rw [← h.keys_eq, List.map_map]
    exact List.map_congr_left fun entry among => (latest entry among).name_eq
  · intro c among
    obtain ⟨entry, inFile, rfl⟩ := List.mem_map.mp among
    rw [(latest entry inFile).name_eq]
    exact latest entry inFile

end IsBuilt

/-- Additions leave the header and the imports. -/
theorem File.top_extend (additions : List Addition) (file : File) :
    (file.extend additions).top = file.top := by
  induction additions generalizing file with
  | nil => rfl
  | cons addition rest ih =>
      refine (ih (addition.apply file)).trans ?_
      cases addition with
      | ofClass c => rfl
      | ofBlock b => rfl
      | ofFunction key f =>
          rw [Addition.apply, File.addFunction?]
          cases file.class? key <;> rfl

/-! ## The sequence of the parts -/

/-- A part of a file that its text shows. -/
inductive Part
  | ofBlock (b : Block)
  | ofClass (c : Class)

namespace Part

def order : Part → Int
  | ofBlock b => b.order
  | ofClass c => c.order

def text : Part → Text
  | ofBlock b => b.text
  | ofClass c => c.text

/-- What sorting sees of a part. -/
def member (part : Part) : Member := ⟨part.order, part.text⟩

end Part

/-- The blocks and the classes, sorted by their orders: at each order the blocks in their
sequence and then the classes in theirs. -/
structure IsArrangement (blocks : List Block) (classes : List Class) (parts : List Part) :
    Prop where
  perm : parts.Perm (blocks.map Part.ofBlock ++ classes.map Part.ofClass)
  sorted : parts.Pairwise fun p q => p.order ≤ q.order
  ofOrder : ∀ n, parts.filter (·.order = n) =
    (blocks.filter (·.order = n)).map Part.ofBlock ++
      (classes.filter (·.order = n)).map Part.ofClass

/-- The members of a file, each as the block or the class that it is of. -/
def arranged (blocks : List Block) (classes : List Class) : List Part :=
  (blocks.map Part.ofBlock ++ classes.map Part.ofClass).insertionSort fun p q => p.order ≤ q.order

/-- Blocks and classes have one arrangement. -/
theorem isArrangement_iff {blocks : List Block} {classes : List Class} {parts : List Part} :
    IsArrangement blocks classes parts ↔ parts = arranged blocks classes := by
  have isArranged : IsArrangement blocks classes (arranged blocks classes) := by
    refine ⟨List.perm_insertionSort _ _, pairwise_insertionSort Part.order _, fun n => ?_⟩
    · rw [arranged, filter_insertionSort, List.filter_append, List.filter_map, List.filter_map]
      rfl
  constructor
  · intro h
    exact eq_of_filter_eq h.sorted isArranged.sorted fun n =>
      (h.ofOrder n).trans (isArranged.ofOrder n).symm
  · rintro rfl
    exact isArranged

theorem Member.insert_eq_orderedInsert (m : Member) (members : List Member) :
    insert m members = members.orderedInsert (fun m n => m.order ≤ n.order) m := by
  induction members with
  | nil => rfl
  | cons first rest ih => rw [insert, ih, List.orderedInsert_cons]

/-- Members are sorted by insertion. -/
theorem Member.sort_eq_insertionSort (members : List Member) :
    sort members = members.insertionSort fun m n => m.order ≤ n.order := by
  induction members with
  | nil => rfl
  | cons first rest ih => rw [sort, ih, insert_eq_orderedInsert, List.insertionSort_cons]

/-- The members of a file are its parts, arranged. -/
theorem File.members_eq (file : File) :
    file.members = (arranged file.blocks (file.classes.map (·.2))).map Part.member := by
  have parts : file.members = Member.sort ((file.blocks.map Part.ofBlock ++
      (file.classes.map (·.2)).map Part.ofClass).map Part.member) := by
    simp only [List.map_append, List.map_map]
    rfl
  rw [parts, Member.sort_eq_insertionSort, arranged]
  exact (List.map_insertionSort (fun p q : Part => p.order ≤ q.order)
    (fun m n : Member => m.order ≤ n.order) Part.member _ fun _ _ _ _ => Iff.rfl).symm

/-! ## The text -/

/-- The header and the imports, an empty line between them, and what there is of them. -/
def heading : List Text → List Text → Text
  | [], [] => []
  | header, [] => Text.joinWith "\n" header
  | [], imports => Text.joinWith "\n" imports
  | header, imports => Text.joinWith "\n" header ++ "\n\n" ++ Text.joinWith "\n" imports

/-- A page: its top, then two empty lines if there is something above and below them, the
bodies with two empty lines between each two, and a line feed. -/
def page (top : Text) (bodies : List Text) : Text :=
  let emptyLines : Text := if top = [] ∨ bodies = [] then [] else "\n\n\n"
  top ++ emptyLines ++ Text.joinWith "\n\n\n" bodies ++ "\n"

theorem File.top_eq_heading (file : File) : file.top = heading file.header file.imports := by
  rw [top]
  cases file.header with
  | nil => cases file.imports <;> rfl
  | cons first rest => cases file.imports <;> rfl

/-- The text of a file is the page of its top and of the trimmed texts of its parts. -/
theorem File.text_eq_page (file : File) :
    file.text = page file.top ((arranged file.blocks (file.classes.map (·.2))).map fun part =>
      Text.trim (· = '\n') part.text) := by
  have bodies : (file.members.map fun m => Text.trim (· = '\n') m.text) =
      (arranged file.blocks (file.classes.map (·.2))).map fun part =>
        Text.trim (· = '\n') part.text := by
    rw [members_eq, List.map_map]
    rfl
  rw [← bodies, text, page]
  cases file.members with
  | nil => simp [Text.joinWith]
  | cons first rest => cases file.top <;> simp

/-- Texts are the trimmed texts of parts exactly if they are trimmed one by one. -/
theorem forall₂_isTrimmed_iff {parts : List Part} {bodies : List Text} :
    List.Forall₂ (fun part body => Text.IsTrimmed (· = '\n') part.text body) parts bodies ↔
      bodies = parts.map fun part => Text.trim (· = '\n') part.text := by
  simp only [Text.isTrimmed_iff]
  constructor
  · intro h
    induction h with
    | nil => rfl
    | cons body _ ih => rw [List.map_cons, ← body, ← ih]
  · rintro rfl
    induction parts with
    | nil => exact .nil
    | cons part rest ih => exact .cons rfl ih

/-- The text of a file after additions, told from the additions: the header and the imports,
and then what is left of the parts, sorted by their orders.  All blocks are left, and of the
classes of one name the last one with the functions added to it since, in the place of the
first; at equal orders blocks come first, each kind in its sequence.  Line feeds at the ends
of a part are left out, and two empty lines stand before it.

A class that another one has taken the place of may get more functions; then it is another
class for the file, which counts where it is added again. -/
theorem text_of_additions (name : Text) (header imports : List Text)
    (additions : List Addition) :
    ∃ classes parts bodies,
      (∀ others, AreLeft additions others ↔ others = classes) ∧
      (∀ others, IsArrangement (addedBlocks additions) classes others ↔ others = parts) ∧
      (∀ others, List.Forall₂ (fun part body => Text.IsTrimmed (· = '\n') (Part.text part) body)
        parts others ↔ others = bodies) ∧
      (File.extend additions ⟨name, header, imports, [], []⟩).text =
        page (heading header imports) bodies := by
  let file := File.extend additions ⟨name, header, imports, [], []⟩
  let classes := file.classes.map (·.2)
  let parts := arranged (addedBlocks additions) classes
  let bodies := parts.map fun part => Text.trim (· = '\n') part.text
  have built : IsBuilt additions file := .extend name header imports additions
  have top : file.top = heading header imports :=
    (File.top_extend additions _).trans (File.top_eq_heading _)
  have text : file.text = page (heading header imports) bodies := by
    rw [file.text_eq_page, top, built.blocks_eq]
  refine ⟨classes, parts, bodies, fun others => ⟨fun h => h.unique built.areLeft, ?_⟩,
    fun _ => isArrangement_iff, fun _ => forall₂_isTrimmed_iff, text⟩
  rintro rfl
  exact built.areLeft

/-- The second class `A` stands where the first one stood, before `B`, and behind the block of
the same order. -/
example : (File.extend
    [.ofClass { name := "A" }, .ofClass { name := "B" }, .ofBlock { code := "x = 1" },
      .ofClass { name := "A" }, .ofFunction "A" { name := "f" }, .ofFunction "C" { name := "g" }]
    ⟨"m.py", ["# h"], [], [], []⟩).text =
      "# h\n\n\nx = 1\n\n\nclass A:\n    def f():\n        pass\n\n\nclass B:\n    pass\n" := by
  decide

end Code

end ClientGen
