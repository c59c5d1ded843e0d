/-
# Laws of the operations on text

What trimming, replacing runs and joining do to a text: which characters the
result may hold, how it begins and how it ends.  Statements about names, about
literals and about whole files rest on these laws and do not open the operations
again.
-/
import ClientGen.Text.Lines
import Mathlib.Data.List.DropRight

namespace ClientGen.Text

variable {p : Char → Bool} {t filler : Text} {c : Char}

/-! ## Characters of one kind -/

/-- All characters of the text are of the kind. -/
def Only (p : Char → Bool) (t : Text) : Prop := ∀ c ∈ t, p c = true

instance (p : Char → Bool) (t : Text) : Decidable (Only p t) :=
  decidable_of_iff (t.all p = true) List.all_eq_true

@[simp]
theorem only_append_iff {a b : Text} : Only p (a ++ b) ↔ Only p a ∧ Only p b :=
  List.forall_mem_append

/-- Two texts of one kind make one of the kind. -/
theorem Only.append {a b : Text} (h : Only p a) (h' : Only p b) : Only p (a ++ b) :=
  only_append_iff.mpr ⟨h, h'⟩

theorem only_cons_iff {rest : Text} : Only p (c :: rest) ↔ p c = true ∧ Only p rest :=
  List.forall_mem_cons

theorem Only.imp {q : Char → Bool} (h : Only p t) (kind : ∀ c, p c = true → q c = true) :
    Only q t :=
  fun c hc => kind c (h c hc)

/-- A text of one kind holds no character of another. -/
theorem Only.not_mem (h : Only p t) (other : p c = false) : c ∉ t := by
  intro among
  rw [h c among] at other
  cases other

/-! ## Trimming -/

/-- Dropping at the end is the library's dropping from the right. -/
theorem dropEndWhile_eq_rdropWhile (p : Char → Bool) (t : Text) :
    dropEndWhile p t = t.rdropWhile p := rfl

/-- What remains after dropping at the end is a beginning of the text. -/
theorem start_dropEndWhile (p : Char → Bool) (t : Text) : dropEndWhile p t <+: t := by
  rw [dropEndWhile_eq_rdropWhile]
  exact t.rdropWhile_prefix p

/-- Nothing is dropped behind a character that is kept. -/
theorem dropEndWhile_eq_self (last : ∀ c, t.getLast? = some c → p c = false) :
    dropEndWhile p t = t := by
  rw [dropEndWhile_eq_rdropWhile, List.rdropWhile_eq_self_iff]
  intro nonempty
  simp [last _ (List.getLast?_eq_some_getLast nonempty)]

/-- Dropping at the end stops where nothing more is dropped from a text in front. -/
theorem dropEndWhile_append {a : Text} (kept : dropEndWhile p a = a) (b : Text) :
    dropEndWhile p (a ++ b) = a ++ dropEndWhile p b := by
  have front : a.reverse.dropWhile p = a.reverse := by
    rw [dropEndWhile, List.reverse_eq_iff] at kept
    exact kept
  rw [dropEndWhile, dropEndWhile, List.reverse_append, List.dropWhile_append, front]
  split
  · rename_i empty
    rw [List.isEmpty_iff.mp empty, List.reverse_nil, List.append_nil, List.reverse_reverse]
  · rw [List.reverse_append, List.reverse_reverse]

/-- Trimming a text keeps only characters of it. -/
theorem mem_of_mem_trim (h : c ∈ trim p t) : c ∈ t := by
  have inRest : c ∈ t.dropWhile p := (start_dropEndWhile p _).subset h
  exact (List.dropWhile_sublist p).subset inRest

/-- A trimmed text does not begin with a character that is trimmed. -/
theorem not_of_head?_trim (h : (trim p t).head? = some c) : p c = false := by
  obtain ⟨rest, hrest⟩ := start_dropEndWhile p (t.dropWhile p)
  have head : (t.dropWhile p).head? = some c := by
    rw [← hrest, List.head?_append]
    rw [trim] at h
    rw [h]
    rfl
  have stop := List.head?_dropWhile_not p t
  rw [head] at stop
  simpa using stop

/-- A trimmed text does not end with a character that is trimmed. -/
theorem not_of_getLast?_trim (h : (trim p t).getLast? = some c) : p c = false := by
  have nonempty : (t.dropWhile p).rdropWhile p ≠ [] := by
    rintro empty
    rw [trim, dropEndWhile_eq_rdropWhile, empty] at h
    cases h
  have last := List.rdropWhile_last_not p _ nonempty
  rw [trim, dropEndWhile_eq_rdropWhile, List.getLast?_eq_some_getLast nonempty] at h
  rw [Option.some.inj h] at last
  simpa using last

/-! ## Replacing runs -/

/-- A character of the result is the filler's or one of the text outside the
runs. -/
theorem mem_replaceRunsFrom {inRun : Bool} (h : c ∈ replaceRunsFrom p filler inRun t) :
    c ∈ filler ∨ c ∈ t ∧ p c = false := by
  induction t generalizing inRun with
  | nil => cases h
  | cons d rest ih =>
      rw [replaceRunsFrom] at h
      by_cases hd : p d
      · rw [if_pos hd] at h
        rcases List.mem_append.mp h with inFiller | inRest
        · cases inRun with
          | true => cases inFiller
          | false => exact Or.inl inFiller
        · rcases ih inRest with inFiller | ⟨inText, outside⟩
          · exact Or.inl inFiller
          · exact Or.inr ⟨List.mem_cons_of_mem _ inText, outside⟩
      · rw [if_neg hd] at h
        rcases List.mem_cons.mp h with rfl | inRest
        · exact Or.inr ⟨List.mem_cons_self, by simpa using hd⟩
        · rcases ih inRest with inFiller | ⟨inText, outside⟩
          · exact Or.inl inFiller
          · exact Or.inr ⟨List.mem_cons_of_mem _ inText, outside⟩

/-- A character of the result is the filler's or one of the text outside the
runs. -/
theorem mem_replaceRuns (h : c ∈ replaceRuns p filler t) : c ∈ filler ∨ c ∈ t ∧ p c = false :=
  mem_replaceRunsFrom h

/-- A text that does not begin with a run keeps its first character. -/
theorem head?_replaceRuns (h : t.head?.all (! p ·)) :
    (replaceRuns p filler t).head? = t.head? := by
  cases t with
  | nil => rfl
  | cons c rest =>
      have outside : ¬ p c := by simpa using h
      rw [replaceRuns, replaceRunsFrom, if_neg outside]
      rfl

/-! ## Joining -/

/-- A character of joined pieces is one of the separator or of a piece. -/
theorem mem_joinWith {sep : Text} {pieces : List Text} (h : c ∈ joinWith sep pieces) :
    c ∈ sep ∨ ∃ piece ∈ pieces, c ∈ piece := by
  induction pieces with
  | nil => cases h
  | cons piece rest ih =>
      cases rest with
      | nil => exact Or.inr ⟨piece, List.mem_cons_self, h⟩
      | cons next more =>
          rw [joinWith, List.mem_append, List.mem_append] at h
          rcases h with (inPiece | inSep) | inRest
          · exact Or.inr ⟨piece, List.mem_cons_self, inPiece⟩
          · exact Or.inl inSep
          · rcases ih inRest with inSep | ⟨other, among, inOther⟩
            · exact Or.inl inSep
            · exact Or.inr ⟨other, List.mem_cons_of_mem _ among, inOther⟩

/-- A piece in front of others that are not none. -/
theorem joinWith_cons (sep piece : Text) {pieces : List Text} (h : pieces ≠ []) :
    joinWith sep (piece :: pieces) = piece ++ sep ++ joinWith sep pieces := by
  cases pieces with
  | nil => exact absurd rfl h
  | cons next rest => rw [joinWith]

theorem joinWith_append (sep : Text) {pieces more : List Text} (front : pieces ≠ [])
    (back : more ≠ []) :
    joinWith sep (pieces ++ more) = joinWith sep pieces ++ sep ++ joinWith sep more := by
  induction pieces with
  | nil => exact absurd rfl front
  | cons piece rest ih =>
      cases rest with
      | nil => exact joinWith_cons sep piece back
      | cons next others =>
          have later := ih (List.cons_ne_nil next others)
          rw [List.cons_append, joinWith_cons sep piece (by simp), later,
            joinWith_cons sep piece (by simp)]
          simp only [List.append_assoc]

/-- Joined pieces are the first one and then each other one behind a separator. -/
theorem joinWith_cons_eq_flatMap (sep : Char) (piece : Text) (pieces : List Text) :
    joinWith [sep] (piece :: pieces) = piece ++ pieces.flatMap (sep :: ·) := by
  induction pieces generalizing piece with
  | nil => exact (List.append_nil piece).symm
  | cons next rest ih =>
      rw [joinWith_cons _ _ (List.cons_ne_nil next rest), ih, List.flatMap_cons]
      simp

/-- Joined pieces are not empty where the first one is not. -/
theorem joinWith_ne_nil {piece : Text} (nonempty : piece ≠ []) (sep : Text) (pieces : List Text) :
    joinWith sep (piece :: pieces) ≠ [] := by
  cases pieces with
  | nil => exact nonempty
  | cons next rest =>
      rw [joinWith_cons _ _ (List.cons_ne_nil next rest), List.append_assoc]
      exact List.append_ne_nil_of_left_ne_nil nonempty _

/-- Joined texts that are not empty are at least as long as their number. -/
theorem length_le_length_joinWith {sep : Text} {pieces : List Text}
    (nonempty : ∀ piece ∈ pieces, piece ≠ []) : pieces.length ≤ (joinWith sep pieces).length := by
  induction pieces with
  | nil => exact Nat.le_refl 0
  | cons piece rest ih =>
      obtain ⟨first, others⟩ := List.forall_mem_cons.mp nonempty
      have some_ : 0 < piece.length := List.length_pos_iff.mpr first
      cases rest with
      | nil => exact some_
      | cons next more =>
          have later := ih others
          rw [joinWith_cons _ _ (List.cons_ne_nil next more)]
          simp only [List.length_cons, List.length_append] at later ⊢
          omega


/-- The last character of joined pieces is the last one of some piece. -/
theorem getLast?_joinWith {sep : Text} {pieces : List Text}
    (nonempty : ∀ piece ∈ pieces, piece ≠ []) (h : (joinWith sep pieces).getLast? = some c) :
    ∃ piece ∈ pieces, piece.getLast? = some c := by
  induction pieces with
  | nil => cases h
  | cons piece rest ih =>
      obtain ⟨-, others⟩ := List.forall_mem_cons.mp nonempty
      cases rest with
      | nil => exact ⟨piece, List.mem_cons_self, h⟩
      | cons next more =>
          have behind := joinWith_ne_nil (others next List.mem_cons_self) sep more
          rw [joinWith_cons _ _ (List.cons_ne_nil next more),
            List.getLast?_append_of_ne_nil _ behind] at h
          obtain ⟨found, among, last⟩ := ih others h
          exact ⟨found, List.mem_cons_of_mem _ among, last⟩

/-- Each piece stands in the joined pieces, at their end or before a separator. -/
theorem exists_joinWith_of_mem (sep : Text) {piece : Text} {pieces : List Text}
    (among : piece ∈ pieces) :
    ∃ before after, joinWith sep pieces = before ++ (piece ++ after) ∧
      (after = [] ∨ sep <+: after) := by
  induction pieces with
  | nil => cases among
  | cons first rest ih =>
      by_cases last : rest = []
      · subst last
        rw [List.mem_singleton.mp among]
        exact ⟨[], [], (List.append_nil first).symm, Or.inl rfl⟩
      · rw [joinWith_cons sep first last, List.append_assoc]
        rcases List.mem_cons.mp among with rfl | later
        · exact ⟨[], _, rfl, Or.inr (List.prefix_append _ _)⟩
        · obtain ⟨before, after, joined, ending⟩ := ih later
          exact ⟨first ++ sep ++ before, after, by simp [joined], ending⟩

theorem Only.joinWith {sep : Text} {pieces : List Text} (inSep : Only p sep)
    (inPieces : ∀ piece ∈ pieces, Only p piece) : Only p (Text.joinWith sep pieces) := by
  intro c hc
  rcases mem_joinWith hc with h | ⟨piece, among, h⟩
  · exact inSep c h
  · exact inPieces piece among c h

/-! ## Cutting -/

variable {sep : Char}

/-- There is always a first piece. -/
theorem splitAt_ne_nil (sep : Char) (t : Text) : splitAt sep t ≠ [] := by
  cases t with
  | nil => exact List.cons_ne_nil _ _
  | cons c rest =>
      rw [splitAt]
      split
      · exact List.cons_ne_nil _ _
      · split <;> exact List.cons_ne_nil _ _

theorem splitAt_cons_sep (sep : Char) (t : Text) :
    splitAt sep (sep :: t) = [] :: splitAt sep t := by
  rw [splitAt, if_pos rfl]

/-- A character other than the separator goes to the first piece. -/
theorem splitAt_cons_of_ne (different : c ≠ sep) {piece : Text} {pieces : List Text}
    (h : splitAt sep t = piece :: pieces) : splitAt sep (c :: t) = (c :: piece) :: pieces := by
  rw [splitAt, if_neg different, h]

/-- The pieces before a separator and those behind it. -/
theorem splitAt_append_sep (sep : Char) (t u : Text) :
    splitAt sep (t ++ sep :: u) = splitAt sep t ++ splitAt sep u := by
  induction t with
  | nil => exact splitAt_cons_sep sep u
  | cons c rest ih =>
      rw [List.cons_append]
      by_cases same : c = sep
      · rw [same, splitAt_cons_sep, splitAt_cons_sep, ih, List.cons_append]
      · obtain ⟨piece, pieces, split⟩ := List.exists_cons_of_ne_nil (splitAt_ne_nil sep rest)
        rw [split] at ih
        rw [splitAt_cons_of_ne same split, splitAt_cons_of_ne same ih]
        rfl

/-- A text without the separator is one piece. -/
theorem splitAt_eq_singleton (h : sep ∉ t) : splitAt sep t = [t] := by
  induction t with
  | nil => rfl
  | cons c rest ih =>
      obtain ⟨first, others⟩ := not_or.mp (List.mem_cons.not.mp h)
      exact splitAt_cons_of_ne (Ne.symm first) (ih others)

/-- A text is its pieces, joined by the separator. -/
theorem joinWith_splitAt (sep : Char) (t : Text) : joinWith [sep] (splitAt sep t) = t := by
  induction t with
  | nil => rfl
  | cons c rest ih =>
      by_cases same : c = sep
      · rw [same, splitAt_cons_sep, joinWith_cons _ _ (splitAt_ne_nil sep rest), ih]
        rfl
      · obtain ⟨piece, pieces, split⟩ := List.exists_cons_of_ne_nil (splitAt_ne_nil sep rest)
        rw [split] at ih
        rw [splitAt_cons_of_ne same split]
        cases pieces with
        | nil => exact congrArg (c :: ·) ih
        | cons next more => exact congrArg (c :: ·) ih

/-- Pieces without the separator are the pieces of what they make when joined. -/
theorem splitAt_joinWith {pieces : List Text} (some : pieces ≠ [])
    (h : ∀ piece ∈ pieces, sep ∉ piece) : splitAt sep (joinWith [sep] pieces) = pieces := by
  induction pieces with
  | nil => exact absurd rfl some
  | cons piece rest ih =>
      obtain ⟨first, others⟩ := List.forall_mem_cons.mp h
      cases rest with
      | nil => exact splitAt_eq_singleton first
      | cons next more =>
          rw [joinWith_cons _ _ (List.cons_ne_nil next more), List.append_assoc,
            List.singleton_append, splitAt_append_sep, splitAt_eq_singleton first,
            ih (List.cons_ne_nil next more) others]
          rfl

/-- A character of a piece is one of the text and not the separator. -/
theorem mem_of_mem_splitAt {piece : Text} (cut : piece ∈ splitAt sep t) (h : c ∈ piece) :
    c ∈ t ∧ c ≠ sep := by
  induction t generalizing piece with
  | nil =>
      rw [splitAt, List.mem_singleton] at cut
      rw [cut] at h
      cases h
  | cons d rest ih =>
      by_cases same : d = sep
      · rw [same, splitAt_cons_sep] at cut
        rcases List.mem_cons.mp cut with rfl | later
        · cases h
        · exact (ih later h).imp_left (List.mem_cons_of_mem d)
      · obtain ⟨first, pieces, split⟩ := List.exists_cons_of_ne_nil (splitAt_ne_nil sep rest)
        rw [splitAt_cons_of_ne same split] at cut
        rw [split] at ih
        rcases List.mem_cons.mp cut with rfl | later
        · rcases List.mem_cons.mp h with rfl | inFirst
          · exact ⟨List.mem_cons_self, same⟩
          · exact (ih List.mem_cons_self inFirst).imp_left (List.mem_cons_of_mem d)
        · exact (ih (List.mem_cons_of_mem _ later) h).imp_left (List.mem_cons_of_mem d)

/-! ## Numerals -/

/-- The decimal digits of a number are ASCII digits. -/
theorem isAsciiDigit_of_mem_ofNat {n : Nat} (h : c ∈ ofNat n) : isAsciiDigit c := by
  have digit := Nat.isDigit_of_mem_toDigits (by decide) (by decide) h
  simpa [isAsciiDigit, Char.isDigit, Char.le_def] using digit

/-- Numbers with the same digits are the same. -/
theorem ofNat_injective : Function.Injective ofNat := by
  intro m n h
  rw [← Nat.ofDigitChars_ten_toDigits (n := m), ← Nat.ofDigitChars_ten_toDigits (n := n)]
  exact congrArg (Nat.ofDigitChars 10 · 0) h

/-- Every number has a digit. -/
theorem ofNat_ne_nil (n : Nat) : ofNat n ≠ [] := Nat.toDigits_ne_nil

/-- Hexadecimal digits are among sixteen characters. -/
theorem mem_hex {width n : Nat} {c : Char} (h : c ∈ hex width n) :
    ∃ d < 16, c = Nat.digitChar d := by
  induction width generalizing n with
  | zero => cases h
  | succ width ih =>
      rw [hex] at h
      rcases List.mem_append.mp h with inFront | isLast
      · exact ih inFront
      · exact ⟨n % 16, Nat.mod_lt _ (by decide), List.mem_singleton.mp isLast⟩

/-- A property of the sixteen digits holds of hexadecimal digits. -/
theorem of_mem_hex (good : Char → Bool) (all : ∀ d < 16, good (Nat.digitChar d) = true)
    {width n : Nat} {c : Char} (h : c ∈ hex width n) : good c = true := by
  obtain ⟨d, small, rfl⟩ := mem_hex h
  exact all d small

end ClientGen.Text
