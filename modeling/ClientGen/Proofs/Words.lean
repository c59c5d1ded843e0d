/-
# Sanitising keeps the words of a text

The words of a text are its maximal runs of characters of one kind.  Sanitising does
nothing but put one underscore between the runs of ASCII letters and digits.  Each of
its three passes leaves the words as they are, and after the last one there is nothing
else beside them.

The first law of words says that a character between two words cuts the text in two;
all the others follow from it.  Replacing runs is followed with the word in front that
has been read so far, since what stands behind a word may still belong to it.
-/
import ClientGen.Proofs.Text
import ClientGen.Naming.Identifier

namespace ClientGen

namespace Text

variable {p q : Char → Bool} {c : Char} {t word : Text}

/-! ## Words -/

/-- The maximal runs of characters of a kind, in order. -/
def words (p : Char → Bool) (t : Text) : List Text :=
  (t.splitOnP (! p ·)).filter (! ·.isEmpty)

@[simp]
theorem words_nil (p : Char → Bool) : words p [] = [] := by
  simp [words]

/-- A character of another kind cuts a text in two. -/
theorem words_append_cons (other : p c = false) (t u : Text) :
    words p (t ++ c :: u) = words p t ++ words p u := by
  rw [words, List.splitOnP_append_cons t u (by simp [other]), List.filter_append]
  rfl

/-- A character of another kind in front belongs to no word. -/
theorem words_cons (other : p c = false) (t : Text) : words p (c :: t) = words p t := by
  simpa using words_append_cons other [] t

/-- A text of one kind is one word. -/
theorem words_of_only (some : t ≠ []) (h : Only p t) : words p t = [t] := by
  rw [words, List.splitOnP_eq_singleton fun c hc => by simp [h c hc]]
  simp [some]

/-- Characters of other kinds at the end belong to no word. -/
theorem words_append_of_none {u : Text} (none : ∀ c ∈ u, p c = false) (t : Text) :
    words p (t ++ u) = words p t := by
  induction u generalizing t with
  | nil => rw [List.append_nil]
  | cons c rest ih =>
      obtain ⟨first, others⟩ := List.forall_mem_cons.mp none
      have behind := ih others []
      rw [List.nil_append, words_nil] at behind
      rw [words_append_cons first, behind, List.append_nil]

/-- The pieces that other characters leave are of the kind. -/
theorem only_of_mem_splitOnP (h : word ∈ t.splitOnP (! p ·)) : Only p word := by
  induction t generalizing word with
  | nil =>
      rw [List.splitOnP_nil, List.mem_singleton] at h
      rw [h]
      exact List.forall_mem_nil _
  | cons d rest ih =>
      rw [List.splitOnP_cons_eq_if_modifyHead] at h
      split at h
      · rcases List.mem_cons.mp h with rfl | later
        · exact List.forall_mem_nil _
        · exact ih later
      · rename_i kind
        obtain ⟨piece, pieces, split⟩ :=
          List.exists_cons_of_ne_nil (List.splitOnP_ne_nil (! p ·) rest)
        rw [split] at h ih
        rcases List.mem_cons.mp h with rfl | later
        · exact only_cons_iff.mpr ⟨by simpa using kind, ih List.mem_cons_self⟩
        · exact ih (List.mem_cons_of_mem _ later)

/-- A word has a character, and only characters of the kind. -/
theorem of_mem_words (h : word ∈ words p t) : word ≠ [] ∧ Only p word := by
  obtain ⟨piece, nonempty⟩ := List.mem_filter.mp h
  exact ⟨by simpa using nonempty, only_of_mem_splitOnP piece⟩

/-- A text with a character of the kind has a word. -/
theorem words_ne_nil (among : c ∈ t) (kind : p c = true) : words p t ≠ [] := by
  induction t with
  | nil => cases among
  | cons d rest ih =>
      by_cases other : p d = false
      · rw [words_cons other]
        rcases List.mem_cons.mp among with rfl | later
        · exact Bool.noConfusion (kind.symm.trans other)
        · exact ih later
      · obtain ⟨piece, pieces, split⟩ :=
          List.exists_cons_of_ne_nil (List.splitOnP_ne_nil (! p ·) rest)
        rw [words, List.splitOnP_cons_eq_if_modifyHead, split]
        simp [other]

/-- Words with single separators between them are the words of what they make. -/
theorem words_joinWith {sep : Char} (other : p sep = false) {pieces : List Text}
    (h : ∀ piece ∈ pieces, piece ≠ [] ∧ Only p piece) :
    words p (joinWith [sep] pieces) = pieces := by
  induction pieces with
  | nil => exact words_nil p
  | cons piece rest ih =>
      obtain ⟨⟨some, kind⟩, others⟩ := List.forall_mem_cons.mp h
      cases rest with
      | nil => exact words_of_only some kind
      | cons next more =>
          rw [joinWith_cons _ _ (List.cons_ne_nil next more), List.append_assoc,
            List.singleton_append, words_append_cons other, words_of_only some kind, ih others]
          rfl

/-! ## Passes that leave the words -/

/-- Replacing runs of other characters by one of them leaves the words.  In front of the
text stands the part of a word that has been read; within a run there is none. -/
theorem words_replaceRunsFrom {filler : Char} (fillerOther : p filler = false)
    (other : ∀ c, q c = true → p c = false) (t : Text) :
    words p (replaceRunsFrom q [filler] true t) = words p t ∧
      ∀ word, Only p word →
        words p (word ++ replaceRunsFrom q [filler] false t) = words p (word ++ t) := by
  induction t with
  | nil => exact ⟨rfl, fun _ _ => rfl⟩
  | cons c rest ih =>
      obtain ⟨inRun, behind⟩ := ih
      -- behind a character outside the runs the text goes on in the same way in both cases
      have keeps : q c = false → ∀ word, Only p word →
          words p (word ++ c :: replaceRunsFrom q [filler] false rest) =
            words p (word ++ c :: rest) := by
        intro _ word kind
        by_cases isKind : p c = true
        · have longer := behind (word ++ [c]) (only_append_iff.mpr ⟨kind, by simpa [Only]⟩)
          simpa using longer
        · have cut : p c = false := by simpa using isKind
          have rest := behind [] (List.forall_mem_nil _)
          rw [List.nil_append, List.nil_append] at rest
          rw [words_append_cons cut, words_append_cons cut, rest]
      by_cases hq : q c = true
      · have cut := other c hq
        refine ⟨?_, ?_⟩
        · rw [replaceRunsFrom, if_pos hq, if_pos rfl, List.nil_append, inRun, words_cons cut]
        · intro word _
          rw [replaceRunsFrom, if_pos hq, if_neg Bool.false_ne_true, List.singleton_append,
            words_append_cons fillerOther, inRun, words_append_cons cut]
      · have outside : q c = false := by simpa using hq
        refine ⟨?_, ?_⟩
        · rw [replaceRunsFrom, if_neg hq]
          exact keeps outside [] (List.forall_mem_nil _)
        · intro word kind
          rw [replaceRunsFrom, if_neg hq]
          exact keeps outside word kind

/-- Replacing runs of other characters by one of them leaves the words. -/
theorem words_replaceRuns {filler : Char} (fillerOther : p filler = false)
    (other : ∀ c, q c = true → p c = false) (t : Text) :
    words p (replaceRuns q [filler] t) = words p t :=
  (words_replaceRunsFrom fillerOther other t).2 [] (List.forall_mem_nil _)

/-- Trimming off other characters leaves the words. -/
theorem words_trim (other : ∀ c, q c = true → p c = false) (t : Text) :
    words p (trim q t) = words p t := by
  have front : words p (t.dropWhile q) = words p t := by
    induction t with
    | nil => rfl
    | cons c rest ih =>
        rw [List.dropWhile_cons]
        split
        · rename_i dropped
          rw [ih, words_cons (other c dropped)]
        · rfl
  have split : (t.dropWhile q).rdropWhile q ++ (t.dropWhile q).rtakeWhile q = t.dropWhile q :=
    List.rdropWhile_append_rtakeWhile
  have dropped : ∀ c ∈ (t.dropWhile q).rtakeWhile q, p c = false :=
    fun c hc => other c (List.mem_rtakeWhile_imp hc)
  rw [← front, ← split, words_append_of_none dropped]
  rfl

/-! ## What is left beside the words -/

/-- In a text of words and separators that does not end in a separator, replacing the
runs of separators by single ones leaves the words joined: where a run of separators
has just been replaced, and behind a part of a word that has been read. -/
theorem replaceRunsFrom_eq_joinWith {sep : Char} (other : p sep = false)
    (kinds : ∀ c ∈ t, p c = true ∨ c = sep) (last : ∀ c, t.getLast? = some c → c ≠ sep) :
    (t ≠ [] → replaceRunsFrom (· = sep) [sep] true t = joinWith [sep] (words p t)) ∧
      ∀ word, word ≠ [] → Only p word →
        word ++ replaceRunsFrom (· = sep) [sep] false t = joinWith [sep] (words p (word ++ t)) := by
  induction t with
  | nil =>
      refine ⟨fun some => absurd rfl some, ?_⟩
      intro word some kind
      simp [replaceRunsFrom, words_of_only some kind, joinWith]
  | cons c rest ih =>
      obtain ⟨first, others⟩ := List.forall_mem_cons.mp kinds
      have lastRest : ∀ d, rest.getLast? = some d → d ≠ sep := by
        intro d hd
        cases rest with
        | nil => cases hd
        | cons e more => exact last d (by rw [List.getLast?_cons_cons, hd])
      obtain ⟨inRun, behind⟩ := ih others lastRest
      by_cases isSep : c = sep
      · -- the run goes on, and it cannot be the end of the text
        have more : rest ≠ [] := by
          rintro rfl
          exact last c rfl isSep
        have hasWord : words p rest ≠ [] := by
          have final := lastRest _ (List.getLast?_eq_some_getLast more)
          have kind := (others _ (List.getLast_mem more)).resolve_right final
          exact words_ne_nil (List.getLast_mem more) kind
        subst isSep
        refine ⟨?_, ?_⟩
        · intro _
          rw [replaceRunsFrom, if_pos (by simp), if_pos rfl, List.nil_append, inRun more,
            words_cons other]
        · intro word some kind
          rw [replaceRunsFrom, if_pos (by simp), if_neg Bool.false_ne_true, inRun more,
            words_append_cons other, words_of_only some kind]
          rw [joinWith_append [c] (List.cons_ne_nil word []) hasWord, List.append_assoc]
          rfl
      · have kind : p c = true := first.resolve_right isSep
        have same : ∀ inRun, replaceRunsFrom (· = sep) [sep] inRun (c :: rest) =
            c :: replaceRunsFrom (· = sep) [sep] false rest := by
          intro inRun
          rw [replaceRunsFrom, if_neg (by simpa using isSep)]
        refine ⟨?_, ?_⟩
        · intro _
          rw [same]
          exact behind [c] (List.cons_ne_nil c []) (by simpa [Only] using kind)
        · intro word some wordKind
          have longer := behind (word ++ [c]) (by simp)
            (only_append_iff.mpr ⟨wordKind, by simpa [Only] using kind⟩)
          rw [same]
          simpa using longer

/-- In a text of words and separators that neither begins nor ends with a separator,
replacing the runs of separators by single ones leaves the words joined. -/
theorem replaceRuns_eq_joinWith {sep : Char} (other : p sep = false)
    (kinds : ∀ c ∈ t, p c = true ∨ c = sep) (head : ∀ c, t.head? = some c → c ≠ sep)
    (last : ∀ c, t.getLast? = some c → c ≠ sep) :
    replaceRuns (· = sep) [sep] t = joinWith [sep] (words p t) := by
  have whole := replaceRunsFrom_eq_joinWith other kinds last
  cases t with
  | nil => simp [replaceRuns, replaceRunsFrom, joinWith]
  | cons c rest =>
      have first : ¬ c = sep := head c rfl
      rw [← whole.1 (List.cons_ne_nil c rest), replaceRuns, replaceRunsFrom, replaceRunsFrom,
        if_neg (by simpa using first), if_neg (by simpa using first)]

end Text

namespace Identifier

/-! ## Sanitised texts -/

/-- A character of names that is no letter or digit is the underscore. -/
theorem isAsciiWord_or_eq_underscore {c : Char} (h : isWordChar c = true) :
    Text.isAsciiWord c = true ∨ c = '_' := by
  simpa [isWordChar] using h

/-- Sanitising leaves the words of letters and digits, joined by single underscores. -/
theorem sanitize_eq_joinWith_words (raw : Text) :
    sanitize raw = Text.joinWith "_" (Text.words Text.isAsciiWord raw) := by
  have underscoreOther : Text.isAsciiWord '_' = false := by decide
  have noWordChar : ∀ c, (! isWordChar c) = true → Text.isAsciiWord c = false := by
    intro c h
    cases word : Text.isAsciiWord c with
    | false => rfl
    | true => simp [isWordChar, word] at h
  have underscore : ∀ c, isUnderscore c = true → Text.isAsciiWord c = false := by
    intro c h
    have same : c = '_' := by simpa [isUnderscore] using h
    rw [same, underscoreOther]
  let inner := Text.replaceRuns (! isWordChar ·) "_" raw
  have kinds : ∀ c ∈ Text.trim isUnderscore inner, Text.isAsciiWord c = true ∨ c = '_' := by
    intro c hc
    apply isAsciiWord_or_eq_underscore
    rcases Text.mem_replaceRuns (Text.mem_of_mem_trim hc) with inFiller | ⟨-, word⟩
    · rw [List.mem_singleton.mp inFiller]
      decide
    · simpa using word
  have ends : ∀ c, isUnderscore c = false → c ≠ '_' := by
    intro c h
    simpa [isUnderscore] using h
  calc sanitize raw = Text.replaceRuns (· = '_') ['_'] (Text.trim isUnderscore inner) := rfl
    _ = Text.joinWith ['_'] (Text.words Text.isAsciiWord (Text.trim isUnderscore inner)) :=
        Text.replaceRuns_eq_joinWith underscoreOther kinds
          (fun c hc => ends c (Text.not_of_head?_trim hc))
          (fun c hc => ends c (Text.not_of_getLast?_trim hc))
    _ = Text.joinWith ['_'] (Text.words Text.isAsciiWord raw) := by
        rw [Text.words_trim underscore inner]
        exact congrArg _ (Text.words_replaceRuns underscoreOther noWordChar raw)

/-- Sanitising leaves the words. -/
theorem words_sanitize (raw : Text) :
    Text.words Text.isAsciiWord (sanitize raw) = Text.words Text.isAsciiWord raw := by
  rw [sanitize_eq_joinWith_words]
  exact Text.words_joinWith (by decide) fun _ => Text.of_mem_words

/-- An underscore cuts a text in two. -/
theorem words_append_underscore (t u : Text) :
    Text.words Text.isAsciiWord (t ++ "_" ++ u) =
      Text.words Text.isAsciiWord t ++ Text.words Text.isAsciiWord u := by
  have cut : t ++ "_" ++ u = t ++ '_' :: u := by simp
  rw [cut, Text.words_append_cons (by decide)]

/-- A sanitised text stays as it is. -/
theorem sanitize_sanitize (raw : Text) : sanitize (sanitize raw) = sanitize raw := by
  rw [sanitize_eq_joinWith_words (sanitize raw), words_sanitize, ← sanitize_eq_joinWith_words]

/-- An underscore behind a text does not change what it is sanitised to. -/
theorem sanitize_append_underscore (raw : Text) : sanitize (raw ++ "_") = sanitize raw := by
  have words := words_append_underscore raw []
  rw [List.append_nil, Text.words_nil, List.append_nil] at words
  rw [sanitize_eq_joinWith_words, words, ← sanitize_eq_joinWith_words]

/-- A sanitised text ends in a letter or a digit. -/
theorem isAsciiWord_of_getLast?_sanitize {raw : Text} {c : Char}
    (h : (sanitize raw).getLast? = some c) :
    Text.isAsciiWord c = true := by
  rw [sanitize_eq_joinWith_words] at h
  obtain ⟨word, among, last⟩ :=
    Text.getLast?_joinWith (fun _ found => (Text.of_mem_words found).1) h
  exact (Text.of_mem_words among).2 c (List.mem_of_mem_getLast? last)

/-- Where a text has a letter or a digit, something is left of it. -/
theorem sanitize_ne_nil {raw : Text} {c : Char} (among : c ∈ raw)
    (word : Text.isAsciiWord c = true) : sanitize raw ≠ [] := by
  intro empty
  have same := words_sanitize raw
  rw [empty, Text.words_nil] at same
  exact Text.words_ne_nil among word same.symm

end Identifier

end ClientGen
