/-
# Every operation gets a usable method name

A method name goes through sanitising, a mark before a leading digit and an underscore
behind a reserved word.  Up to the mark it is words of ASCII letters and digits with
single underscores between them, and sanitising leaves such a text as it is.  The last
underscore is taken off again by sanitising, so naming a method after a method name
goes through the same marked name and ends at the same place.

Something is left to be named in every case: where an operation's own identifier leaves
nothing, the HTTP method does.
-/
import ClientGen.Proofs.Groups
import ClientGen.Proofs.Module
import ClientGen.Proofs.Words

namespace ClientGen

namespace Identifier

variable {digitMark name raw : Text} {c : Char}

/-- A mark for names that begin with a digit: a word that does not, and an underscore. -/
structure IsDigitMark (digitMark : Text) : Prop where
  spelled : ∃ word, digitMark = word ++ "_" ∧ word ≠ [] ∧ Text.Only Text.isAsciiWord word
  noDigit : startsWithDigit digitMark = false

/-- A marked name does not begin with a digit. -/
theorem startsWithDigit_marked (mark : IsDigitMark digitMark) (name : Text) :
    startsWithDigit (marked digitMark name) = false := by
  rw [marked]
  split
  · obtain ⟨word, rfl, nonempty, -⟩ := mark.spelled
    obtain ⟨d, rest, rfl⟩ := List.exists_cons_of_ne_nil nonempty
    exact mark.noDigit
  · rename_i noDigit
    simpa using noDigit

/-- Marking a sanitised text leaves a sanitised text. -/
theorem sanitize_marked_sanitize (mark : IsDigitMark digitMark) (raw : Text) :
    sanitize (marked digitMark (sanitize raw)) = marked digitMark (sanitize raw) := by
  rw [marked]
  split
  · rename_i digit
    obtain ⟨word, rfl, nonempty, kind⟩ := mark.spelled
    have hasWord : Text.words Text.isAsciiWord raw ≠ [] := by
      intro none
      rw [sanitize_eq_joinWith_words, none] at digit
      cases digit
    have words : Text.words Text.isAsciiWord (word ++ "_" ++ sanitize raw) =
        word :: Text.words Text.isAsciiWord raw := by
      rw [words_append_underscore, words_sanitize, Text.words_of_only nonempty kind]
      rfl
    rw [sanitize_eq_joinWith_words, words, Text.joinWith_cons _ _ hasWord,
      ← sanitize_eq_joinWith_words]
  · exact sanitize_sanitize raw

/-- No reserved word ends in an underscore. -/
theorem isReserved_append_underscore (name : Text) : isReserved (name ++ "_") = false := by
  have ends : ∀ word ∈ reservedWords, word.getLast? ≠ some '_' := by decide
  rw [isReserved, ← Bool.not_eq_true, List.contains_iff_mem]
  intro among
  exact ends _ among List.getLast?_concat

/-- Completing a sanitised completed name again changes nothing. -/
theorem complete_sanitize_complete (mark : IsDigitMark digitMark) (raw : Text) :
    complete digitMark (sanitize (complete digitMark (sanitize raw))) =
      complete digitMark (sanitize raw) := by
  have stem : sanitize (complete digitMark (sanitize raw)) = marked digitMark (sanitize raw) := by
    rw [complete_eq]
    split
    · rw [sanitize_append_underscore, sanitize_marked_sanitize mark]
    · exact sanitize_marked_sanitize mark raw
  have again : marked digitMark (marked digitMark (sanitize raw)) =
      marked digitMark (sanitize raw) := by
    rw [marked, startsWithDigit_marked mark, if_neg Bool.false_ne_true]
  rw [stem, complete_eq, again, ← complete_eq]

/-- A name completed with an underscore is a reserved word without it. -/
theorem isReserved_of_complete_eq_append {stem : Text} (mark : IsDigitMark digitMark) (raw : Text)
    (h : complete digitMark (sanitize raw) = stem ++ "_") : isReserved stem = true := by
  rw [complete_eq] at h
  split at h
  · rename_i reserved
    rwa [← List.append_cancel_right h]
  · -- the marked name is sanitised, so it has no underscore at its end
    have last : (sanitize (marked digitMark (sanitize raw))).getLast? = some '_' := by
      rw [sanitize_marked_sanitize mark, h]
      exact List.getLast?_concat
    exact absurd (isAsciiWord_of_getLast?_sanitize last) (by decide)

/-- A completed name is not reserved. -/
theorem isReserved_complete (digitMark name : Text) :
    isReserved (complete digitMark name) = false := by
  rw [complete_eq]
  split
  · exact isReserved_append_underscore _
  · rename_i free
    simpa using free

end Identifier

namespace Naming

open Identifier

/-- The spelling of method names: words of ASCII letters and digits behind one another,
the first with a letter in front, each other one behind an underscore, and perhaps an
underscore at the end. -/
def IsMethodName (name : Text) : Prop :=
  ∃ (c : Char) (word : Text) (words : List Text) (ending : Text),
    name = c :: word ++ words.flatMap ('_' :: ·) ++ ending ∧
      Text.isAsciiLetter c = true ∧ Text.Only Text.isAsciiWord word ∧
      (∀ w ∈ words, w ≠ [] ∧ Text.Only Text.isAsciiWord w) ∧ (ending = [] ∨ ending = "_")

/-- A sanitised text that begins with a letter has the spelling of method names, with or
without an underscore behind it. -/
theorem isMethodName_sanitize {raw ending : Text} {c : Char}
    (head : (sanitize raw).head? = some c) (letter : Text.isAsciiLetter c = true)
    (allowed : ending = [] ∨ ending = "_") : IsMethodName (sanitize raw ++ ending) := by
  have kinds : ∀ w ∈ Text.words Text.isAsciiWord raw, w ≠ [] ∧ Text.Only Text.isAsciiWord w :=
    fun _ => Text.of_mem_words
  have joined := sanitize_eq_joinWith_words raw
  cases words : Text.words Text.isAsciiWord raw with
  | nil =>
      rw [joined, words] at head
      cases head
  | cons first others =>
      rw [words] at kinds joined
      obtain ⟨⟨nonempty, firstKind⟩, otherKinds⟩ := List.forall_mem_cons.mp kinds
      obtain ⟨d, word, rfl⟩ := List.exists_cons_of_ne_nil nonempty
      have spelled : sanitize raw = d :: word ++ others.flatMap ('_' :: ·) :=
        joined.trans (Text.joinWith_cons_eq_flatMap '_' _ _)
      have same : d = c := by simpa [spelled] using head
      subst same
      exact ⟨d, word, others, ending, by rw [spelled], letter,
        (Text.only_cons_iff.mp firstKind).2, otherKinds, allowed⟩

/-- The mark of method names. -/
theorem isDigitMark_op : IsDigitMark "op_" where
  spelled := ⟨"op", rfl, by decide, by decide⟩
  noDigit := by decide

/-- The name of a method is completed from something that is left by sanitising, where
the HTTP method has a letter or a digit. -/
theorem functionName_eq_complete_of_mem {method : Text} {c : Char} (among : c ∈ method)
    (word : Text.isAsciiWord c = true) (operationId : Option Text) (path : Text) :
    ∃ raw, sanitize raw ≠ [] ∧
      functionName operationId path method = complete "op_" (sanitize raw) := by
  rw [functionName]
  cases own : ((operationId.map sanitize).getD []).isEmpty with
  | true =>
      rw [if_pos rfl]
      exact ⟨_, sanitize_ne_nil (List.mem_append_left _ (List.mem_append_left _ among)) word, rfl⟩
  | false =>
      rw [if_neg Bool.false_ne_true]
      cases operationId with
      | none => cases own
      | some id => exact ⟨id, by simpa using own, rfl⟩

/-- The name of a method has the spelling of method names. -/
theorem isMethodName_functionName {method : Text} {c : Char} (among : c ∈ method)
    (word : Text.isAsciiWord c = true) (operationId : Option Text) (path : Text) :
    IsMethodName (functionName operationId path method) := by
  obtain ⟨raw, left, name⟩ := functionName_eq_complete_of_mem among word operationId path
  have nonempty : marked "op_" (sanitize raw) ≠ [] := by
    rw [marked]
    split
    · exact List.cons_ne_nil _ _
    · exact left
  obtain ⟨d, rest, front⟩ := List.exists_cons_of_ne_nil nonempty
  have head : (marked "op_" (sanitize raw)).head? = some d := by rw [front, List.head?_cons]
  have letter : Text.isAsciiLetter d = true := by
    have first : (functionName operationId path method).head? = some d := by
      rw [name, head?_complete, head]
    exact isAsciiLetter_of_head?_functionName first
  rw [← sanitize_marked_sanitize isDigitMark_op] at head
  rw [name, complete_eq, ← sanitize_marked_sanitize isDigitMark_op]
  split
  · exact isMethodName_sanitize head letter (Or.inr rfl)
  · simpa using isMethodName_sanitize head letter (Or.inl rfl)

/-- A name with the spelling of method names is an identifier without an underscore in
front. -/
theorem IsMethodName.spelled {name : Text} (h : IsMethodName name) :
    Text.Spelled Text.isAsciiLetter isWordChar [] name := by
  obtain ⟨c, word, words, ending, rfl, letter, wordKind, kinds, allowed⟩ := h
  have wordChar : ∀ x, Text.isAsciiWord x = true → isWordChar x = true := by
    intro x h
    simp [isWordChar, h]
  have inWords : Text.Only isWordChar (words.flatMap ('_' :: ·)) := by
    intro x hx
    obtain ⟨w, among, inWord⟩ := List.mem_flatMap.mp hx
    rcases List.mem_cons.mp inWord with rfl | inWord
    · decide
    · exact wordChar x ((kinds w among).2 x inWord)
  have inEnding : Text.Only isWordChar ending := by
    rcases allowed with rfl | rfl
    · exact List.forall_mem_nil _
    · decide
  refine ⟨c, word ++ words.flatMap ('_' :: ·) ++ ending, by simp, letter, ?_⟩
  exact Text.only_append_iff.mpr
    ⟨Text.only_append_iff.mpr ⟨wordKind.imp wordChar, inWords⟩, inEnding⟩

/-- A name that a method of a generated class can have: it has the spelling of method
names and so is an identifier, it is no reserved word, an underscore at its end guards
one, it does not begin with an underscore, and an operation that has it for an identifier
gets it again wherever it stands. -/
structure IsUsable (name : Text) : Prop where
  spelled : IsMethodName name
  identifier : Text.Spelled Text.isAsciiLetter isWordChar [] name
  free : isReserved name = false
  guards : ∀ stem, name = stem ++ "_" → isReserved stem = true
  visible : name.head? ≠ some '_'
  again : ∀ (other : Operation) (path method : Text), other.operationId = some name →
    (other.index path method).functionName = name

/-- The name of a method is usable. -/
theorem isUsable_functionName {method : Text} {c : Char} (among : c ∈ method)
    (word : Text.isAsciiWord c = true) (operationId : Option Text) (path : Text) :
    IsUsable (functionName operationId path method) := by
  have spelled := isMethodName_functionName among word operationId path
  obtain ⟨raw, -, name⟩ := functionName_eq_complete_of_mem among word operationId path
  refine ⟨spelled, spelled.spelled, ?_, ?_, ?_, ?_⟩
  · rw [name]
    exact isReserved_complete _ _
  · intro stem ending
    exact isReserved_of_complete_eq_append isDigitMark_op raw (name.symm.trans ending)
  · intro underscore
    exact absurd (isAsciiLetter_of_head?_functionName underscore) (by decide)
  · intro other path' method' own
    -- the name begins with a letter, so something is left of it and the path does not count
    obtain ⟨d, rest, front, letter, -⟩ := spelled.spelled
    have left : sanitize (functionName operationId path method) ≠ [] := by
      apply sanitize_ne_nil (c := d)
      · rw [front]
        exact List.mem_cons_self
      · simp [Text.isAsciiWord, letter]
    show functionName other.operationId path' method' = functionName operationId path method
    rw [own, functionName, Option.map_some, Option.getD_some, if_neg (by simpa using left), name]
    exact complete_sanitize_complete isDigitMark_op raw

end Naming

namespace Client

/-- The class of a tag has the constructor, and then only functions that are named neither
like the constructor nor like the attribute that it sets. -/
theorem functions_tagClass_eq_cons (className : Text) (encode : Bool)
    {operations : List IndexedOperation} (named : ∀ op ∈ operations, Named op) :
    ∃ methods, (tagClass className operations encode).functions =
        ("__init__".toList, constructor) :: methods ∧
      ∀ m ∈ methods, m.2.name ≠ "__init__" ∧ m.2.name ≠ "_http" := by
  refine ⟨_, congrArg Code.Class.functions (tagClass_eq className encode named), ?_⟩
  intro m among
  obtain ⟨entry, inMap, rfl⟩ := List.mem_map.mp among
  obtain ⟨op, inOperations, rfl⟩ := List.mem_map.mp (Ordered.mem_of_mem_ofPairs inMap)
  exact ⟨(named op inOperations).ne_of_underscore _, (named op inOperations).ne_of_underscore _⟩

end Client

namespace Document

/-- The HTTP methods are words. -/
theorem isAsciiWord_of_mem_httpMethods {method : Text} (h : method ∈ httpMethods) :
    method ≠ [] ∧ Text.Only Text.isAsciiWord method := by
  have all : ∀ m ∈ httpMethods, m ≠ [] ∧ Text.Only Text.isAsciiWord m := by decide
  exact all method h

/-- The operations of a document stand under one of the seven methods. -/
theorem mem_httpMethods_of_mem_operationsOf {document raw : Fields} {path method : Text}
    (visited : (path, method, raw) ∈ operationsOf document) : method ∈ httpMethods := by
  obtain ⟨⟨key, item⟩, -, found⟩ := List.mem_flatMap.mp visited
  obtain ⟨⟨field, value⟩, -, taken⟩ := List.mem_filterMap.mp found
  cases value with
  | obj fields =>
      simp only [Option.ite_none_right_eq_some, Option.some.injEq, Prod.mk.injEq] at taken
      obtain ⟨known, -, rfl, -⟩ := taken
      exact known
  | null | bool _ | int _ | float _ | str _ | arr _ => cases taken

/-- Every operation gets a usable method name: the names in each group are usable, and in
the class of the group nothing takes the place of the constructor or of its attribute. -/
theorem method_names_usable (document : Fields) :
    ∀ group ∈ groups document,
      (∀ op ∈ group.2, Naming.IsUsable op.functionName) ∧
      ∀ className encode, ∃ methods, (Client.tagClass className group.2 encode).functions =
          ("__init__".toList, Client.constructor) :: methods ∧
        ∀ m ∈ methods, m.2.name ≠ "__init__" ∧ m.2.name ≠ "_http" := by
  rintro ⟨tag, ops⟩ group
  refine ⟨?_, ?_⟩
  · intro op among
    obtain ⟨path, method, raw, visited, -, rfl⟩ := exists_of_mem_group group among
    have isMethod := isAsciiWord_of_mem_httpMethods (mem_httpMethods_of_mem_operationsOf visited)
    obtain ⟨c, inMethod⟩ := List.exists_mem_of_ne_nil method isMethod.1
    exact Naming.isUsable_functionName inMethod (isMethod.2 c inMethod) _ path
  · intro className encode
    apply Client.functions_tagClass_eq_cons
    intro op among
    obtain ⟨path, method, raw, -, -, rfl⟩ := exists_of_mem_group group among
    rfl

/-- A document whose operations have hard names: a reserved word, a digit in front, marks
alone, a number, none at all, and one that is full of underscores. -/
def hardNames : Fields :=
  [("paths".toList, .obj
    [("/2fa/\x7bid\x7d".toList, .obj
        [("get".toList, .obj [("operationId".toList, .str "class".toList)]),
          ("put".toList, .obj [("operationId".toList, .str "2fa".toList)]),
          ("post".toList, .obj [("operationId".toList, .str "!!!".toList)])]),
      ("/\x7bid\x7d".toList, .obj
        [("get".toList, .obj [("operationId".toList, .int 7)]),
          ("delete".toList, .obj []),
          ("patch".toList, .obj [("operationId".toList, .str "__init__--_http_".toList)])])])]

/-- On the hard names: six usable names, and naming by the guarded one gives it again. -/
theorem method_names_usable_hard :
    (groups hardNames).flatMap (·.2.map (·.functionName)) =
        ["class_", "op_2fa", "post_2fa", "op_7", "delete_root", "init_http"].map String.toList ∧
      (∀ name ∈ ["class_", "op_2fa", "post_2fa", "op_7", "delete_root", "init_http"],
        Naming.IsUsable name.toList) ∧
      ((Operation.ofFields [("operationId".toList, .str "class_".toList)]).index "/else"
        "head").functionName = "class_" := by
  have names : (groups hardNames).flatMap (·.2.map (·.functionName)) =
      ["class_", "op_2fa", "post_2fa", "op_7", "delete_root", "init_http"].map String.toList := by
    decide
  have usable : ∀ name ∈ ["class_", "op_2fa", "post_2fa", "op_7", "delete_root", "init_http"],
      Naming.IsUsable name.toList := by
    intro name among
    have inNames := List.mem_map_of_mem (f := String.toList) among
    rw [← names] at inNames
    obtain ⟨group, inGroups, inGroup⟩ := List.mem_flatMap.mp inNames
    obtain ⟨op, inOps, same⟩ := List.mem_map.mp inGroup
    rw [← same]
    exact (method_names_usable hardNames group inGroups).1 op inOps
  exact ⟨names, usable, (usable "class_" (by decide)).again _ "/else" "head" rfl⟩

end Document

end ClientGen
