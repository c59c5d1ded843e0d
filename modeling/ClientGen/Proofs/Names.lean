/-
# How names are spelled

Every name that a document contributes to generated code goes through
sanitising.  What sanitising leaves are ASCII letters, digits and underscores,
none of them an underscore at the start; a mark before a leading digit then makes
the first character a letter.  The lower case of a text holds no capital letter
of ASCII, which is read off the case table, so the stems of modules are in small
letters throughout.
-/
import ClientGen.Naming.Names
import ClientGen.Proofs.Text

namespace ClientGen

namespace Text

/-- Whether `c` is a small letter of ASCII. -/
def isSmallLetter (c : Char) : Bool := 'a' ≤ c && c ≤ 'z'

/-- Whether `c` is a capital letter of ASCII. -/
def isCapitalLetter (c : Char) : Bool := 'A' ≤ c && c ≤ 'Z'

/-- The name is a first character, then others, then the given ending. -/
def Spelled (first rest : Char → Bool) (ending name : Text) : Prop :=
  ∃ c body, name = c :: body ++ ending ∧ first c = true ∧ Only rest body

/-- A spelling goes on with characters of the same kind and a new ending. -/
theorem Spelled.append {first rest : Char → Bool} {t : Text} (h : Spelled first rest [] t)
    (more ending : Text) (allowed : Only rest more) :
    Spelled first rest ending (t ++ more ++ ending) := by
  obtain ⟨c, body, rfl, hfirst, hbody⟩ := h
  exact ⟨c, body ++ more, by simp, hfirst, only_append_iff.mpr ⟨hbody, allowed⟩⟩

/-- All characters of a spelled name are of the three kinds. -/
theorem Spelled.all {first rest kind : Char → Bool} {ending name : Text}
    (h : Spelled first rest ending name) (firstKind : ∀ x, first x = true → kind x = true)
    (restKind : ∀ x, rest x = true → kind x = true) (endingKind : Only kind ending) :
    Only kind name := by
  obtain ⟨c, body, rfl, hfirst, hbody⟩ := h
  exact only_append_iff.mpr
    ⟨only_cons_iff.mpr ⟨firstKind c hfirst, hbody.imp restKind⟩, endingKind⟩

/-! ## Lower case -/

/-- No row of the table of small letters leads to ASCII capitals. -/
theorem lowerRows_above : ∀ row ∈ lowerRows, (0x5A : Int) < row.1 + row.2.2.2 := by
  decide +kernel

/-- A code beyond ASCII is mapped beyond the ASCII capitals. -/
theorem mapByRows_lowerRows_above {n : Nat} (h : 0x80 ≤ n) : 0x5A < mapByRows lowerRows n := by
  rw [mapByRows]
  split
  · rename_i first last step shift found
    have above := lowerRows_above _ (List.mem_of_find?_eq_some found)
    have covers := List.find?_some found
    simp only [Bool.and_eq_true, decide_eq_true_eq] at covers
    simp only at above
    have atLeast : first ≤ n := covers.1.1
    simp only [Int.ofNat_eq_natCast]
    omega
  · omega

/-- A character given by a code beyond the ASCII capitals is none of them. -/
theorem isCapitalLetter_charOfCode {n : Nat} (h : 0x5A < n) :
    isCapitalLetter (charOfCode n) = false := by
  rw [charOfCode]
  split
  · rename_i valid
    have code : (Char.ofNat n).toNat = n := by
      rw [Char.ofNat, dif_pos valid]
      rfl
    have beyond : ¬ Char.ofNat n ≤ 'Z' := by
      intro le
      have : (Char.ofNat n).toNat ≤ 'Z'.toNat := le
      rw [code] at this
      have : n ≤ 0x5A := this
      omega
    simp [isCapitalLetter, beyond]
  · decide

/-- A character of ASCII is none of its capitals after lowering. -/
theorem only_lowerChar_ascii {c : Char} (h : c.toNat < 0x80) :
    Only (! isCapitalLetter ·) (lowerChar c) := by
  have all : ∀ n < 0x80, Only (! isCapitalLetter ·) (lowerChar (Char.ofNat n)) := by
    decide
  have self : Char.ofNat c.toNat = c := Char.ofNat_toNat c
  rw [← self]
  exact all c.toNat h

/-- Lower case has no ASCII capital. -/
theorem isCapitalLetter_of_mem_lower {t : Text} {x : Char} (h : x ∈ lower t) :
    isCapitalLetter x = false := by
  obtain ⟨c, -, hx⟩ := List.mem_flatMap.mp h
  by_cases ascii : c.toNat < 0x80
  · simpa using only_lowerChar_ascii ascii x hx
  · rw [lowerChar, if_neg ascii] at hx
    split at hx
    · rcases List.mem_cons.mp hx with rfl | hx
      · decide
      · rw [List.mem_singleton.mp hx]
        decide
    · rw [List.mem_singleton.mp hx]
      exact isCapitalLetter_charOfCode (mapByRows_lowerRows_above (by omega))

/-- A character of ASCII other than a capital is its own lower case. -/
theorem lowerChar_eq_self {c : Char} (ascii : c.toNat < 0x80)
    (noCapital : isCapitalLetter c = false) : lowerChar c = [c] := by
  have no : ¬ ('A' ≤ c ∧ c ≤ 'Z') := by
    rintro ⟨low, high⟩
    simp [isCapitalLetter, low, high] at noCapital
  rw [lowerChar, if_pos ascii, if_neg no]

/-- A text of ASCII characters without capitals is its own lower case. -/
theorem lower_eq_self {t : Text} (ascii : ∀ c ∈ t, c.toNat < 0x80)
    (noCapital : ∀ c ∈ t, isCapitalLetter c = false) : lower t = t := by
  induction t with
  | nil => rfl
  | cons c rest ih =>
      obtain ⟨asciiFirst, asciiRest⟩ := List.forall_mem_cons.mp ascii
      obtain ⟨first, others⟩ := List.forall_mem_cons.mp noCapital
      rw [lower, List.flatMap_cons, lowerChar_eq_self asciiFirst first, ← lower,
        ih asciiRest others]
      rfl

end Text

namespace Identifier

variable {raw : Text} {c : Char}

/-- A sanitised text holds underscores and the ASCII letters and digits of the
text. -/
theorem mem_sanitize (h : c ∈ sanitize raw) : c = '_' ∨ c ∈ raw ∧ Text.isAsciiWord c = true := by
  rw [sanitize] at h
  rcases Text.mem_replaceRuns h with inFiller | ⟨inTrimmed, noUnderscore⟩
  · exact Or.inl (List.mem_singleton.mp inFiller)
  · rcases Text.mem_replaceRuns (Text.mem_of_mem_trim inTrimmed) with inFiller | ⟨inRaw, word⟩
    · exact Or.inl (List.mem_singleton.mp inFiller)
    · refine Or.inr ⟨inRaw, ?_⟩
      have different : c ≠ '_' := by simpa [isUnderscore] using noUnderscore
      simpa [isWordChar, different] using word

/-- A sanitised text consists of word characters. -/
theorem isWordChar_of_mem_sanitize (h : c ∈ sanitize raw) : isWordChar c = true := by
  rcases mem_sanitize h with rfl | ⟨-, word⟩
  · decide
  · simp [isWordChar, word]

/-- A sanitised text begins with a letter or a digit. -/
theorem isAsciiWord_of_head?_sanitize (h : (sanitize raw).head? = some c) :
    Text.isAsciiWord c = true := by
  have trimmed : (sanitize raw).head? =
      (Text.trim isUnderscore (Text.replaceRuns (! isWordChar ·) "_" raw)).head? := by
    rw [sanitize]
    apply Text.head?_replaceRuns
    cases head : (Text.trim isUnderscore (Text.replaceRuns (! isWordChar ·) "_" raw)).head? with
    | none => rfl
    | some d => simp [Text.not_of_head?_trim head]
  have noUnderscore := Text.not_of_head?_trim (trimmed ▸ h)
  rcases mem_sanitize (List.mem_of_mem_head? h) with rfl | ⟨-, word⟩
  · cases noUnderscore
  · exact word

/-- A letter or digit of ASCII that is no digit is a letter. -/
theorem isAsciiLetter_of_not_isDigit (word : Text.isAsciiWord c = true)
    (noDigit : Text.isDigit c = false) : Text.isAsciiLetter c = true := by
  have noAsciiDigit : Text.isAsciiDigit c = false := by
    rw [Text.isDigit, Bool.or_eq_false_iff] at noDigit
    exact noDigit.1
  simpa [Text.isAsciiWord, noAsciiDigit] using word

/-- A name with the mark in front where it begins with a digit. -/
def marked (digitMark name : Text) : Text :=
  if startsWithDigit name then digitMark ++ name else name

/-- Completing puts the mark in front, then an underscore behind a reserved
word. -/
theorem complete_eq (digitMark name : Text) :
    complete digitMark name =
      if isReserved (marked digitMark name) then marked digitMark name ++ "_"
      else marked digitMark name := rfl

/-- A completed name holds the characters of the name, of the mark and the
underscore. -/
theorem mem_complete {digitMark name : Text} (h : c ∈ complete digitMark name) :
    c ∈ digitMark ∨ c ∈ name ∨ c = '_' := by
  have inMarked : c ∈ marked digitMark name → c ∈ digitMark ∨ c ∈ name := by
    intro h
    rw [marked] at h
    split at h
    · exact List.mem_append.mp h
    · exact Or.inr h
  rw [complete_eq] at h
  split at h
  · rcases List.mem_append.mp h with inFront | inEnd
    · exact (inMarked inFront).imp_right Or.inl
    · exact Or.inr (Or.inr (List.mem_singleton.mp inEnd))
  · exact (inMarked h).imp_right Or.inl

/-- A completed name begins like the marked name. -/
theorem head?_complete (digitMark name : Text) :
    (complete digitMark name).head? = (marked digitMark name).head? := by
  rw [complete_eq]
  split
  · rename_i reserved
    have nonempty : marked digitMark name ≠ [] := by
      intro empty
      rw [empty] at reserved
      exact absurd reserved (by decide)
    obtain ⟨d, rest, hd⟩ := List.exists_cons_of_ne_nil nonempty
    rw [hd]
    rfl
  · rfl

end Identifier

namespace Naming

/-- Stems are spelled with a first letter, where the fallback and the mark are
and sanitising leaves only characters of the right kind. -/
theorem spelled_stem {first rest : Char → Bool} {fallback digitMark name : Text}
    (underscore : rest '_' = true)
    (words : ∀ x ∈ name, Text.isAsciiWord x = true → rest x = true)
    (letters : ∀ x, Text.isAsciiLetter x = true → rest x = true → first x = true)
    (spelledFallback : Text.Spelled first rest [] fallback)
    (spelledMark : Text.Spelled first rest [] digitMark)
    (noDigits : Identifier.startsWithDigit fallback = false) :
    Text.Spelled first rest [] (stem fallback digitMark name) := by
  have cleanAllowed : Text.Only rest (Identifier.sanitize name) := by
    intro x hx
    rcases Identifier.mem_sanitize hx with rfl | ⟨inName, word⟩
    · exact underscore
    · exact words x inName word
  rw [stem]
  cases clean : Identifier.sanitize name with
  | nil => simpa [noDigits] using spelledFallback
  | cons c body =>
      rw [clean] at cleanAllowed
      by_cases digit : Identifier.startsWithDigit (c :: body)
      · simpa [digit] using spelledMark.append (c :: body) [] cleanAllowed
      · have head : (Identifier.sanitize name).head? = some c := by rw [clean, List.head?_cons]
        have word := Identifier.isAsciiWord_of_head?_sanitize head
        have letter := Identifier.isAsciiLetter_of_not_isDigit word
          (by simpa [Identifier.startsWithDigit] using digit)
        have hfirst := letters c letter (cleanAllowed c List.mem_cons_self)
        refine ⟨c, body, by simp [digit], hfirst, ?_⟩
        intro x hx
        exact cleanAllowed x (List.mem_cons_of_mem _ hx)

/-- The characters of module names. -/
def isModuleChar (c : Char) : Bool := Text.isSmallLetter c || Text.isAsciiDigit c || c = '_'

/-- The spelling of module names: a small letter, then small letters, digits and
underscores, then the ending of modules. -/
def IsModuleName (name : Text) : Prop :=
  Text.Spelled Text.isSmallLetter isModuleChar "_api" name

/-- The spelling of class names: a letter, then letters, digits and underscores,
then the ending of classes. -/
def IsClassName (name : Text) : Prop :=
  Text.Spelled Text.isAsciiLetter Identifier.isWordChar "Api" name

/-- Whether `c` is one of the characters that file names are made of. -/
def isFileChar (c : Char) : Bool := isModuleChar c || c = '.'

/-- The characters of file names are of ASCII and no capitals. -/
theorem ascii_of_isFileChar {c : Char} (h : isFileChar c = true) :
    c.toNat < 0x80 ∧ Text.isCapitalLetter c = false := by
  simp only [isFileChar, isModuleChar, Text.isSmallLetter, Text.isAsciiDigit, Bool.or_eq_true,
    Bool.and_eq_true, decide_eq_true_eq] at h
  have below {x bound : Char} (le : x ≤ bound) (small : bound.toNat < 0x80) : x.toNat < 0x80 :=
    Nat.lt_of_le_of_lt le small
  rcases h with ((⟨fromA, toZ⟩ | ⟨-, toNine⟩) | rfl) | rfl
  · refine ⟨below toZ (by decide), ?_⟩
    have : ¬ c ≤ 'Z' := fun le => absurd (Char.le_trans fromA le) (by decide)
    simp [Text.isCapitalLetter, this]
  · refine ⟨below toNine (by decide), ?_⟩
    have : ¬ 'A' ≤ c := fun le => absurd (Char.le_trans le toNine) (by decide)
    simp [Text.isCapitalLetter, this]
  · decide
  · decide

/-- A module name consists of characters of module names. -/
theorem IsModuleName.only {name : Text} (h : IsModuleName name) : Text.Only isModuleChar name := by
  refine Text.Spelled.all h ?_ (fun _ same => same) (by decide)
  intro c small
  simp [isModuleChar, small]

/-- A class name consists of word characters. -/
theorem IsClassName.only {name : Text} (h : IsClassName name) :
    Text.Only Identifier.isWordChar name := by
  refine Text.Spelled.all h ?_ (fun _ same => same) (by decide)
  intro c letter
  simp [Identifier.isWordChar, Text.isAsciiWord, letter]

/-- The spelling of a stem of modules. -/
theorem spelled_moduleStem (tag : Text) :
    Text.Spelled Text.isSmallLetter isModuleChar [] (moduleStem tag) := by
  apply spelled_stem
  · decide
  · intro x hx word
    have noCapital := Text.isCapitalLetter_of_mem_lower hx
    rw [Text.isCapitalLetter] at noCapital
    simpa [Text.isAsciiWord, Text.isAsciiLetter, isModuleChar, Text.isSmallLetter, noCapital,
      or_comm, or_assoc] using Or.inl word
  · intro x letter kind
    simp only [isModuleChar, Text.isAsciiLetter, Text.isAsciiDigit, Bool.or_eq_true,
      Bool.and_eq_true, decide_eq_true_eq] at letter kind
    rcases letter with small | ⟨fromA, toZ⟩
    · simp [Text.isSmallLetter, small]
    · rcases kind with (small | ⟨-, toNine⟩) | rfl
      · exact small
      · exact absurd (Char.le_trans fromA toNine) (by decide)
      · exact absurd toZ (by decide)
  · exact ⟨'d', "efault".toList, by decide, by decide, by decide⟩
  · exact ⟨'t', "ag_".toList, by decide, by decide, by decide⟩
  · decide

/-- The spelling of a stem of classes. -/
theorem spelled_classStem (tag : Text) :
    Text.Spelled Text.isAsciiLetter Identifier.isWordChar [] (classStem tag) := by
  apply spelled_stem
  · decide
  · intro x _ word
    simp [Identifier.isWordChar, word]
  · intro x letter _
    exact letter
  · exact ⟨'D', "efault".toList, by decide, by decide, by decide⟩
  · exact ⟨'T', "ag".toList, by decide, by decide, by decide⟩
  · decide

/-! ## Names of methods -/

/-- The name of a method before completion is a sanitised text. -/
theorem functionName_eq_complete (operationId : Option Text) (path method : Text) :
    ∃ raw, functionName operationId path method =
      Identifier.complete "op_" (Identifier.sanitize raw) := by
  simp only [functionName]
  split
  · exact ⟨_, rfl⟩
  · cases operationId with
    | none => exact ⟨[], rfl⟩
    | some own => exact ⟨own, rfl⟩

/-- The name of a method consists of word characters. -/
theorem isWordChar_of_mem_functionName {operationId : Option Text} {path method : Text} {c : Char}
    (h : c ∈ functionName operationId path method) : Identifier.isWordChar c = true := by
  obtain ⟨raw, name⟩ := functionName_eq_complete operationId path method
  rw [name] at h
  rcases Identifier.mem_complete h with inMark | inName | rfl
  · have mark : Text.Only Identifier.isWordChar "op_" := by decide
    exact mark c inMark
  · exact Identifier.isWordChar_of_mem_sanitize inName
  · decide

/-- The name of a method begins with a letter. -/
theorem isAsciiLetter_of_head?_functionName {operationId : Option Text} {path method : Text}
    {c : Char} (h : (functionName operationId path method).head? = some c) :
    Text.isAsciiLetter c = true := by
  obtain ⟨raw, name⟩ := functionName_eq_complete operationId path method
  rw [name, Identifier.head?_complete, Identifier.marked] at h
  split at h
  · have first : c = 'o' := by simpa using h.symm
    rw [first]
    decide
  · rename_i noDigit
    have word := Identifier.isAsciiWord_of_head?_sanitize h
    apply Identifier.isAsciiLetter_of_not_isDigit word
    simpa [Identifier.startsWithDigit, h] using noDigit

end Naming

end ClientGen
