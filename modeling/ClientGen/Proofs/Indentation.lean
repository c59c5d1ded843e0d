/-
# Indentation of texts that are made of parts

A method is indented when its body is rendered, and again as a part of its class.  The
second indentation works on the class as one text, cut anew at every line end that some
part happens to hold.  It comes to the same as indenting the parts alone: line feeds are
where parts meet, and indentation goes through them.  Two indentations in a row are one
by both margins, since a margin of blanks neither makes nor ends a line.
-/
import ClientGen.Proofs.Lines

namespace ClientGen.Text

variable {margin t : Text}

/-- A margin: characters that are blank and end no line. -/
def IsMargin (margin : Text) : Prop := Only isBlank margin ∧ InLine margin

/-! ## Parts -/

/-- Parts with an empty line between each two are indented each on its own. -/
theorem indentBy_joinWith_emptyLine (margin : Text) (parts : List Text) :
    indentBy margin (joinWith "\n\n" parts) = joinWith "\n\n" (parts.map (indentBy margin)) := by
  induction parts with
  | nil => rfl
  | cons part rest ih =>
      cases rest with
      | nil => rfl
      | cons next more =>
          have between : joinWith "\n\n" (part :: next :: more) =
              part ++ '\n' :: ([] ++ '\n' :: joinWith "\n\n" (next :: more)) := by
            simp [joinWith]
          rw [between, indentBy_append_lineFeed, indentBy_append_lineFeed, ih]
          simp [joinWith, indentBy, lines]

/-- A text without line ends in front of another gets no margin within. -/
theorem indentFrom_append (margin : Text) (start : Bool) (h : InLine t) (u : Text) :
    indentFrom margin start (t ++ u) =
      (if start && firstLineHasInk (t ++ u) then margin else []) ++
        (t ++ indentFrom margin false u) := by
  induction t generalizing start with
  | nil =>
      cases start with
      | false => rfl
      | true => exact indentFrom_true margin u
  | cons c rest ih =>
      obtain ⟨first, others⟩ := inLine_cons_iff.mp h
      rw [List.cons_append, indentFrom, endsLine_eq_false first, ih false others]
      rfl

/-! ## Two margins -/

/-- A margin in front leaves the ink of the first line as it is. -/
theorem firstLineHasInk_margin_append (h : IsMargin margin) (t : Text) :
    firstLineHasInk (margin ++ t) = firstLineHasInk t := by
  obtain ⟨blank, inLine⟩ := h
  induction margin with
  | nil => rfl
  | cons c rest ih =>
      obtain ⟨firstBlank, othersBlank⟩ := only_cons_iff.mp blank
      obtain ⟨first, others⟩ := inLine_cons_iff.mp inLine
      rw [List.cons_append, firstLineHasInk, endsLine_eq_false first, ih othersBlank others,
        firstBlank]
      rfl

/-- An indented text goes on with a line feed exactly if the text does. -/
theorem head?_indentFrom_lineFeed (h : IsMargin margin) (start : Bool) (t : Text) :
    (indentFrom margin start t).head? = some '\n' ↔ t.head? = some '\n' := by
  cases t with
  | nil => exact Iff.rfl
  | cons c rest =>
      rw [indentFrom]
      split
      · rename_i put
        have ink : firstLineHasInk (c :: rest) = true := (Bool.and_eq_true_iff.mp put).2
        have noFeed : c ≠ '\n' := by
          rintro rfl
          rw [show ('\n' :: rest) = [] ++ '\n' :: rest from rfl,
            firstLineHasInk_append_lineFeed] at ink
          cases ink
        cases margin with
        | nil => rfl
        | cons d more =>
            have other : d ≠ '\n' := fun same => h.2.lineFeed_not_mem (same ▸ List.mem_cons_self)
            simp [noFeed, other]
      · rfl

/-- Indentation leaves the ink of the first line as it is. -/
theorem firstLineHasInk_indentFrom (h : IsMargin margin) (start : Bool) (t : Text) :
    firstLineHasInk (indentFrom margin start t) = firstLineHasInk t := by
  induction t generalizing start with
  | nil => rfl
  | cons c rest ih =>
      have cut : endsLine c (indentFrom margin (endsLine c rest) rest) = endsLine c rest :=
        endsLine_congr (head?_indentFrom_lineFeed h _ rest)
      have behind : firstLineHasInk (c :: indentFrom margin (endsLine c rest) rest) =
          firstLineHasInk (c :: rest) := by
        rw [firstLineHasInk, cut, ih, ← firstLineHasInk]
      rw [indentFrom]
      split
      · rw [firstLineHasInk_margin_append h, behind]
      · exact behind

/-- Indenting twice is indenting once, the second margin in front of the first. -/
theorem indentFrom_indentFrom (outer : Text) (h : IsMargin margin) (start : Bool) (t : Text) :
    indentFrom outer start (indentFrom margin start t) = indentFrom (outer ++ margin) start t := by
  induction t generalizing start with
  | nil => rfl
  | cons c rest ih =>
      have cut : endsLine c (indentFrom margin (endsLine c rest) rest) = endsLine c rest :=
        endsLine_congr (head?_indentFrom_lineFeed h _ rest)
      have ink := firstLineHasInk_indentFrom h start (c :: rest)
      rw [indentFrom] at ink ⊢
      rw [indentFrom, ← ih]
      by_cases put : (start && firstLineHasInk (c :: rest)) = true
      · obtain ⟨rfl, inked⟩ := Bool.and_eq_true_iff.mp put
        rw [if_pos put] at ink
        rw [if_pos put, if_pos put, indentFrom_append outer true h.2, ink, inked, indentFrom, cut]
        simp
      · rw [if_neg put, List.nil_append] at ink
        rw [if_neg put, if_neg put, List.nil_append, indentFrom, cut, ink, if_neg put]

/-- Indenting twice is indenting once by both margins. -/
theorem indentBy_indentBy (outer : Text) (h : IsMargin margin) (t : Text) :
    indentBy outer (indentBy margin t) = indentBy (outer ++ margin) t := by
  simp only [indentBy_eq_indentFrom]
  exact indentFrom_indentFrom outer h true t

/-- By an empty margin nothing is indented. -/
theorem indentFrom_nil_margin (start : Bool) (t : Text) : indentFrom [] start t = t := by
  induction t generalizing start with
  | nil => rfl
  | cons c rest ih =>
      rw [indentFrom, ih, ite_self]
      rfl

end ClientGen.Text
