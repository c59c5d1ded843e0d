/-
# Sanitising in one line

Sanitising replaces, trims and replaces again.  Its plain definition is one line: the
maximal runs of ASCII letters and digits, in order, with single underscores between them.
The two are compared here on all texts.

The runs of a text are given as a relation, by where each begins and ends; a text has
exactly one list of them, and that is the list of its words.  From the plain definition
follows what a sanitised text looks like, that the texts of this look are exactly those
that sanitising leaves alone, and that it can be done on two parts of a text apart
wherever something stands between them that is no letter and no digit.
-/
import ClientGen.Proofs.Names
import ClientGen.Proofs.Words

namespace ClientGen

namespace Text

variable {p : Char → Bool} {c : Char} {t gap : Text}

/-! ## Runs -/

/-- The maximal runs of a kind in a text: each stands behind a gap of other characters, and
goes on until another one or the end. -/
inductive Runs (p : Char → Bool) : Text → List Text → Prop
  | none {gap : Text} : Only (! p ·) gap → Runs p gap []
  | next {gap run rest : Text} {runs : List Text} :
      Only (! p ·) gap → run ≠ [] → Only p run → (∀ c, rest.head? = some c → p c = false) →
      Runs p rest runs → Runs p (gap ++ run ++ rest) (run :: runs)

theorem Only.other (h : Only (! p ·) gap) : ∀ c ∈ gap, p c = false :=
  fun c hc => by simpa using h c hc

/-- Characters of other kinds in front belong to no word. -/
theorem words_append_of_gap (h : Only (! p ·) gap) (t : Text) :
    words p (gap ++ t) = words p t := by
  induction gap with
  | nil => rfl
  | cons c rest ih =>
      obtain ⟨first, others⟩ := List.forall_mem_cons.mp h.other
      rw [List.cons_append, words_cons first]
      exact ih (only_cons_iff.mp h).2

/-- A gap cuts a text in two. -/
theorem words_append_gap (nonempty : gap ≠ []) (h : Only (! p ·) gap) (t u : Text) :
    words p (t ++ gap ++ u) = words p t ++ words p u := by
  obtain ⟨c, rest, rfl⟩ := List.exists_cons_of_ne_nil nonempty
  obtain ⟨first, others⟩ := only_cons_iff.mp h
  have cut : t ++ c :: rest ++ u = t ++ c :: (rest ++ u) := by simp
  rw [cut, words_append_cons (by simpa using first), words_append_of_gap others]

/-- A run that is followed by another kind or by nothing is the first word. -/
theorem words_run_append {run rest : Text} (nonempty : run ≠ []) (kind : Only p run)
    (stop : ∀ c, rest.head? = some c → p c = false) :
    words p (run ++ rest) = run :: words p rest := by
  cases rest with
  | nil => rw [List.append_nil, words_of_only nonempty kind, words_nil]
  | cons c rest =>
      have other : p c = false := stop c rfl
      rw [words_append_cons other, words_of_only nonempty kind, words_cons other]
      rfl

/-- The runs of a text are its words. -/
theorem Runs.eq_words {runs : List Text} (h : Runs p t runs) : runs = words p t := by
  induction h with
  | none other =>
      have all := words_append_of_gap other []
      rw [List.append_nil, words_nil] at all
      exact all.symm
  | next other nonempty kind stop _ ih =>
      rw [List.append_assoc, words_append_of_gap other, words_run_append nonempty kind stop, ih]

/-- A character of another kind in front lengthens the first gap. -/
theorem Runs.cons_other {runs : List Text} (h : Runs p t runs) (other : p c = false) :
    Runs p (c :: t) runs := by
  have first : (! p c) = true := by simp [other]
  cases h with
  | none gap => exact .none (only_cons_iff.mpr ⟨first, gap⟩)
  | next gap nonempty kind stop later =>
      exact .next (only_cons_iff.mpr ⟨first, gap⟩) nonempty kind stop later

/-- A character of the kind in front lengthens the first run where that begins the text, and
is a run of its own elsewhere. -/
theorem Runs.cons_kind {runs : List Text} (h : Runs p t runs) (kind : p c = true) :
    ∃ runs', Runs p (c :: t) runs' := by
  have single : Only p [c] := fun d hd => List.mem_singleton.mp hd ▸ kind
  by_cases begins : ∃ d, t.head? = some d ∧ p d = true
  · obtain ⟨d, head, dKind⟩ := begins
    cases h with
    | none gap =>
        have other := gap.other d (List.mem_of_mem_head? head)
        exact Bool.noConfusion (dKind.symm.trans other)
    | @next gap run rest runs inGap _ runKind stop later =>
        cases gap with
        | nil =>
            have longer : Only p (c :: run) := only_cons_iff.mpr ⟨kind, runKind⟩
            exact ⟨_, @Runs.next p [] (c :: run) rest runs (List.forall_mem_nil _)
              (List.cons_ne_nil c run) longer stop later⟩
        | cons e gap =>
            obtain rfl : e = d := by simpa using head
            have other := inGap.other e List.mem_cons_self
            exact Bool.noConfusion (dKind.symm.trans other)
  · have stop : ∀ d, t.head? = some d → p d = false := by
      intro d head
      by_contra dKind
      exact begins ⟨d, head, by simpa using dKind⟩
    exact ⟨_, @Runs.next p [] [c] t runs (List.forall_mem_nil _) (List.cons_ne_nil c []) single
      stop h⟩

/-- Every text has runs. -/
theorem exists_runs (p : Char → Bool) (t : Text) : ∃ runs, Runs p t runs := by
  induction t with
  | nil => exact ⟨[], .none (List.forall_mem_nil _)⟩
  | cons c rest ih =>
      obtain ⟨runs, later⟩ := ih
      cases kind : p c with
      | true => exact later.cons_kind kind
      | false => exact ⟨runs, later.cons_other kind⟩

/-- A text has one list of runs, that of its words. -/
theorem runs_iff {runs : List Text} : Runs p t runs ↔ runs = words p t := by
  constructor
  · exact Runs.eq_words
  · rintro rfl
    obtain ⟨runs, h⟩ := exists_runs p t
    rwa [← h.eq_words]

/-- A text has no words exactly if it has no character of the kind. -/
theorem words_eq_nil_iff : words p t = [] ↔ ∀ c ∈ t, p c = false := by
  constructor
  · intro none c among
    by_contra kind
    exact words_ne_nil among (by simpa using kind) none
  · intro none
    have words := words_append_of_none none []
    rwa [List.nil_append, words_nil] at words

/-! ## Joining in two parts -/

section

variable {pieces more : List Text}

/-- Joined pieces are empty only where there are none. -/
theorem joinWith_eq_nil_iff (sep : Text) (nonempty : ∀ piece ∈ pieces, piece ≠ []) :
    joinWith sep pieces = [] ↔ pieces = [] := by
  cases pieces with
  | nil => exact iff_of_true rfl rfl
  | cons piece rest =>
      have first := nonempty piece List.mem_cons_self
      exact iff_of_false (joinWith_ne_nil first sep rest) (List.cons_ne_nil piece rest)

/-- Pieces are joined in two parts, of which an empty one does not count. -/
theorem joinWith_append_filter (sep : Text) (nonempty : ∀ piece ∈ pieces, piece ≠ [])
    (nonemptyMore : ∀ piece ∈ more, piece ≠ []) :
    joinWith sep (pieces ++ more) =
      joinWith sep ([joinWith sep pieces, joinWith sep more].filter (! ·.isEmpty)) := by
  by_cases front : pieces = []
  · by_cases back : more = []
    · simp [front, back, joinWith]
    · have some := (joinWith_eq_nil_iff sep nonemptyMore).not.mpr back
      simp [front, some, joinWith]
  · have some := (joinWith_eq_nil_iff sep nonempty).not.mpr front
    by_cases back : more = []
    · simp [back, some, joinWith]
    · have someMore := (joinWith_eq_nil_iff sep nonemptyMore).not.mpr back
      rw [joinWith_append sep front back]
      simp [some, someMore, joinWith]

end

/-! ## Doubled characters -/

/-- A character in front of a text doubles where the text begins with it. -/
theorem doubled_infix_cons_iff {d : Char} {rest : Text} :
    [c, c] <:+: d :: rest ↔ (d = c ∧ rest.head? = some c) ∨ [c, c] <:+: rest := by
  rw [List.infix_cons_iff, List.cons_prefix_cons]
  cases rest with
  | nil => simp
  | cons e more => simp [List.cons_prefix_cons, eq_comm]

/-- Where runs are replaced by one character of their kind, it is never doubled, and right
behind a run it does not come again. -/
theorem not_doubled_replaceRunsFrom (kind : p c = true) (inRun : Bool) (t : Text) :
    ¬ [c, c] <:+: replaceRunsFrom p [c] inRun t ∧
      (inRun = true → (replaceRunsFrom p [c] inRun t).head? ≠ some c) := by
  induction t generalizing inRun with
  | nil => simp [replaceRunsFrom]
  | cons d rest ih =>
      rw [replaceRunsFrom]
      by_cases inKind : p d = true
      · obtain ⟨single, apart⟩ := ih true
        rw [if_pos inKind]
        cases inRun with
        | true => exact ⟨single, fun _ => apart rfl⟩
        | false =>
            refine ⟨?_, fun no => Bool.noConfusion no⟩
            rw [if_neg Bool.false_ne_true, List.singleton_append, doubled_infix_cons_iff]
            exact not_or.mpr ⟨fun h => apart rfl h.2, single⟩
      · have different : d ≠ c := fun same => inKind (same ▸ kind)
        rw [if_neg inKind]
        refine ⟨?_, fun _ => by simpa using different⟩
        rw [doubled_infix_cons_iff]
        exact not_or.mpr ⟨fun h => different h.1, (ih false).1⟩

/-- A text without characters of the runs stays as it is. -/
theorem replaceRuns_of_none (h : ∀ c ∈ t, p c = false) (filler : Text) :
    replaceRuns p filler t = t := by
  have stays : replaceRunsFrom p filler false t = t := by
    induction t with
    | nil => rfl
    | cons d rest ih =>
        obtain ⟨first, others⟩ := List.forall_mem_cons.mp h
        rw [replaceRunsFrom, if_neg (by simp [first]), ih others]
  exact stays

/-- A text in which a character is never doubled stays as it is when the runs of that
character are replaced by a single one. -/
theorem replaceRunsFrom_of_not_doubled (only : ∀ d, p d = true ↔ d = c) {inRun : Bool}
    (single : ¬ [c, c] <:+: t) (apart : inRun = true → t.head? ≠ some c) :
    replaceRunsFrom p [c] inRun t = t := by
  induction t generalizing inRun with
  | nil => rfl
  | cons d rest ih =>
      obtain ⟨notFirst, single⟩ := not_or.mp (doubled_infix_cons_iff.not.mp single)
      rw [replaceRunsFrom]
      by_cases same : d = c
      · subst same
        have outside : inRun = false := by
          cases inRun with
          | false => rfl
          | true => exact absurd rfl (apart rfl)
        have next : rest.head? ≠ some d := fun head => notFirst ⟨rfl, head⟩
        rw [if_pos ((only d).mpr rfl), outside, if_neg Bool.false_ne_true,
          ih single fun _ => next]
        rfl
      · rw [if_neg ((only d).not.mpr same), ih single fun no => Bool.noConfusion no]

/-- A text that neither begins nor ends with a character that is trimmed stays as it is. -/
theorem trim_of_ends (head : ∀ c, t.head? = some c → p c = false)
    (last : ∀ c, t.getLast? = some c → p c = false) : trim p t = t := by
  have front : t.dropWhile p = t := by
    cases t with
    | nil => rfl
    | cons c rest => exact List.dropWhile_cons_of_neg (by simp [head c rfl])
  rw [trim, front, dropEndWhile_eq_self last]

end Text

namespace Identifier

variable {raw t : Text}

/-! ## The form of sanitised texts -/

/-- The form that sanitising leaves: characters of names, and underscores only one at a time
and between others. -/
structure IsPlainName (t : Text) : Prop where
  only : Text.Only isWordChar t
  head_ne : t.head? ≠ some '_'
  last_ne : t.getLast? ≠ some '_'
  single : ¬ ['_', '_'] <:+: t

theorem isUnderscore_iff {c : Char} : isUnderscore c = true ↔ c = '_' := by
  simp [isUnderscore]

/-- What sanitising leaves has the form. -/
theorem isPlainName_sanitize (raw : Text) : IsPlainName (sanitize raw) where
  only := fun _ => isWordChar_of_mem_sanitize
  head_ne := fun head => absurd (isAsciiWord_of_head?_sanitize head) (by decide)
  last_ne := fun last => absurd (isAsciiWord_of_getLast?_sanitize last) (by decide)
  single := (Text.not_doubled_replaceRunsFrom (isUnderscore_iff.mpr rfl) false _).1

/-- A text of the form is left alone: none of the three passes finds anything. -/
theorem IsPlainName.sanitize_eq (h : IsPlainName t) : sanitize t = t := by
  have replaced : Text.replaceRuns (! isWordChar ·) "_" t = t := by
    apply Text.replaceRuns_of_none
    intro c hc
    simp [h.only c hc]
  have noUnderscore : ∀ c, c ≠ '_' → isUnderscore c = false := by
    intro c other
    simp [isUnderscore, other]
  have trimmed : Text.trim isUnderscore t = t := by
    apply Text.trim_of_ends
    · exact fun c head => noUnderscore c fun same => h.head_ne (same ▸ head)
    · exact fun c last => noUnderscore c fun same => h.last_ne (same ▸ last)
  rw [sanitize, replaced, trimmed]
  exact Text.replaceRunsFrom_of_not_doubled (fun _ => isUnderscore_iff) h.single
    fun no => Bool.noConfusion no

/-- Nothing is left exactly of a text without letters and digits. -/
theorem sanitize_eq_nil_iff : sanitize raw = [] ↔ ∀ c ∈ raw, Text.isAsciiWord c = false := by
  rw [sanitize_eq_joinWith_words,
    Text.joinWith_eq_nil_iff "_" fun _ found => (Text.of_mem_words found).1,
    Text.words_eq_nil_iff]

/-- Where a gap stands between two texts, they are sanitised each, and joined where
something is left of both. -/
theorem sanitize_append_gap {gap : Text} (nonempty : gap ≠ [])
    (h : ∀ c ∈ gap, Text.isAsciiWord c = false) (a b : Text) :
    sanitize (a ++ gap ++ b) =
      Text.joinWith "_" ([sanitize a, sanitize b].filter (! ·.isEmpty)) := by
  have other : Text.Only (! Text.isAsciiWord ·) gap := fun c hc => by simp [h c hc]
  have words := Text.words_append_gap nonempty other a b
  rw [sanitize_eq_joinWith_words, words, sanitize_eq_joinWith_words a,
    sanitize_eq_joinWith_words b]
  exact Text.joinWith_append_filter "_" (fun _ found => (Text.of_mem_words found).1)
    fun _ found => (Text.of_mem_words found).1

/-- Sanitising joins the maximal runs of ASCII letters and digits of a text by single
underscores.  So it leaves characters of names only, with no underscore at either end and
none doubled; it leaves nothing exactly of a text without letters and digits; it leaves
alone exactly the texts of this form, and so does nothing the second time; and two texts
with something else between them are sanitised each on its own. -/
theorem sanitize_joins_runs (raw : Text) :
    (∃ runs, (∀ pieces, Text.Runs Text.isAsciiWord raw pieces ↔ pieces = runs) ∧
        sanitize raw = Text.joinWith "_" runs) ∧
      IsPlainName (sanitize raw) ∧
      (sanitize raw = [] ↔ ∀ c ∈ raw, Text.isAsciiWord c = false) ∧
      (sanitize raw = raw ↔ IsPlainName raw) ∧
      sanitize (sanitize raw) = sanitize raw ∧
      ∀ a gap b, gap ≠ [] → (∀ c ∈ gap, Text.isAsciiWord c = false) →
        sanitize (a ++ gap ++ b) =
          Text.joinWith "_" ([sanitize a, sanitize b].filter (! ·.isEmpty)) := by
  have plain := isPlainName_sanitize raw
  refine ⟨⟨_, fun _ => Text.runs_iff, sanitize_eq_joinWith_words raw⟩, plain,
    sanitize_eq_nil_iff, ⟨?_, IsPlainName.sanitize_eq⟩, plain.sanitize_eq,
    fun a gap b nonempty none => sanitize_append_gap nonempty none a b⟩
  intro alone
  rwa [alone] at plain

/-- A text with a letter of another alphabet, blanks, doubled underscores and a digit of
another script. -/
def mixedText : Text := "__caf\u00e9__1 \u00a0-_2\u0663_"

/-- On that text: three runs are joined, and what stands before the blanks and behind them
is sanitised each on its own. -/
theorem sanitize_joins_runs_mixed :
    Text.Runs Text.isAsciiWord mixedText (["caf", "1", "2"].map String.toList) ∧
      " \u00a0-".toList ≠ [] ∧ (∀ c ∈ " \u00a0-".toList, Text.isAsciiWord c = false) ∧
      mixedText = "__caf\u00e9__1".toList ++ " \u00a0-".toList ++ "_2\u0663_".toList ∧
      sanitize mixedText = "caf_1_2" := by
  obtain ⟨⟨runs, unique, joined⟩, -, -, -, -, parts⟩ := sanitize_joins_runs mixedText
  have nonempty : " \u00a0-".toList ≠ [] := by decide
  have none : ∀ c ∈ " \u00a0-".toList, Text.isAsciiWord c = false := by
    simp [Text.isAsciiWord, Text.isAsciiLetter, Text.isAsciiDigit]
  have cut : mixedText = "__caf\u00e9__1".toList ++ " \u00a0-".toList ++ "_2\u0663_".toList :=
    rfl
  have each := parts "__caf\u00e9__1" " \u00a0-" "_2\u0663_" nonempty none
  refine ⟨Text.runs_iff.mpr (by decide), nonempty, none, cut, ?_⟩
  rw [cut, each]
  decide

end Identifier

end ClientGen
