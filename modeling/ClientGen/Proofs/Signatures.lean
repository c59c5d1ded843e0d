/-
# Signatures

A signature shows the parameters of a function in the order that a call needs: those without
a default first, and both parts as they are given.  There is one such order.

It is written on one line or with a line for each parameter.  Which of the two it is can be
read off the text, for the longer form is longer.  Where no parameter holds a line end, the
lines are put together again to the short form: margins and the last comma go, and the
other line breaks become blanks.
-/
import ClientGen.Proofs.Code

namespace ClientGen

namespace Text

/-- Indentation only puts characters in between. -/
theorem sublist_indentFrom (margin : Text) (start : Bool) (t : Text) :
    t.Sublist (indentFrom margin start t) := by
  induction t generalizing start with
  | nil => exact .slnil
  | cons c rest ih =>
      rw [indentFrom]
      exact List.sublist_append_of_sublist_right ((ih _).cons_cons c)

/-- Pieces joined by line feeds are all but the last one with a line feed behind, and then
the last one. -/
theorem joinWith_lineFeed_concat (pieces : List Text) (last : Text) :
    joinWith "\n" (pieces ++ [last]) =
      (pieces.map fun piece => piece ++ ['\n']).flatten ++ last := by
  induction pieces with
  | nil => rfl
  | cons piece rest ih =>
      rw [List.cons_append, joinWith_cons _ _ (by simp), ih]
      simp

/-- Pieces with a comma behind each, joined by blanks, are the pieces joined by commas and
blanks, but for a last comma. -/
theorem dropLast_joinWith_comma (pieces : List Text) :
    (joinWith " " (pieces.map fun piece => piece ++ [','])).dropLast = joinWith ", " pieces := by
  induction pieces with
  | nil => rfl
  | cons piece rest ih =>
      cases rest with
      | nil => exact List.dropLast_concat
      | cons next more =>
          have behind : joinWith " " ((next :: more).map fun piece => piece ++ [',']) ≠ [] :=
            joinWith_ne_nil (by simp) _ _
          rw [List.map_cons, joinWith_cons _ _ (by simp), List.dropLast_append_of_ne_nil behind, ih,
            joinWith_cons _ _ (List.cons_ne_nil next more)]
          simp

/-- Joined pieces are not longer than prints in which each piece has room for a separator. -/
theorem length_joinWith_le {α : Type} {sep : Text} {piece print : α → Text} {l : List α}
    (room : ∀ a ∈ l, (piece a).length + sep.length ≤ (print a).length) :
    (joinWith sep (l.map piece)).length ≤ (l.map print).flatten.length := by
  induction l with
  | nil => exact Nat.le_refl 0
  | cons a rest ih =>
      obtain ⟨first, others⟩ := List.forall_mem_cons.mp room
      rw [List.map_cons, List.map_cons, List.flatten_cons, List.length_append]
      cases rest with
      | nil => exact Nat.le_trans (Nat.le_add_right _ _) (Nat.le_add_right_of_le first)
      | cons next more =>
          rw [joinWith_cons _ _ (by simp), List.length_append, List.length_append]
          exact Nat.add_le_add first (ih others)

end Text

namespace Code

section

variable {α : Type} {late : α → Bool} {l : List α}

/-- A list in which nothing late stands before something early is its early part and then
its late part. -/
theorem filter_append_filter_of_pairwise (h : l.Pairwise fun a b => late a → late b) :
    l.filter (! late ·) ++ l.filter late = l := by
  induction l with
  | nil => rfl
  | cons a rest ih =>
      obtain ⟨first, others⟩ := List.pairwise_cons.mp h
      cases isLate : late a with
      | false => simp [isLate, ih others]
      | true =>
          have behind : ∀ b ∈ rest, late b = true := fun b among => first b among isLate
          have early : rest.filter (! late ·) = [] :=
            List.filter_eq_nil_iff.mpr fun b among => by simp [behind b among]
          simp [isLate, early, List.filter_eq_self.mpr behind]

/-- In the early part of a list and then the late one, nothing late stands before something
early. -/
theorem pairwise_filter_append_filter (late : α → Bool) (l : List α) :
    (l.filter (! late ·) ++ l.filter late).Pairwise fun a b => late a → late b := by
  refine List.pairwise_append.mpr ⟨?_, ?_, ?_⟩
  · refine List.pairwise_of_forall_mem_list fun a among b _ isLate => ?_
    simp [isLate] at among
  · exact List.pairwise_of_forall_mem_list fun a _ b among _ => (List.mem_filter.mp among).2
  · exact fun a _ b among _ => (List.mem_filter.mp among).2

/-- Nothing of the late part is early. -/
theorem filter_early (late : α → Bool) (l : List α) :
    (l.filter (! late ·) ++ l.filter late).filter (! late ·) = l.filter (! late ·) := by
  simp [List.filter_append, List.filter_filter]

/-- Nothing of the early part is late. -/
theorem filter_late (late : α → Bool) (l : List α) :
    (l.filter (! late ·) ++ l.filter late).filter late = l.filter late := by
  simp [List.filter_append, List.filter_filter]

end

/-- A list shows given parameters in the order of a call: all of them and no others, none
that has a default before one that has none, and otherwise as they are given. -/
structure IsCallOrder (given shown : List Parameter) : Prop where
  perm : shown.Perm given
  requiredFirst : shown.Pairwise fun p q => p.default.isSome → q.default.isSome
  required : shown.filter (·.default.isNone) = given.filter (·.default.isNone)
  optional : shown.filter (·.default.isSome) = given.filter (·.default.isSome)

/-- The line of a parameter. -/
def parameterLine (p : Parameter) : Text := margin ++ p.text ++ ","

/-- Lines put together to one: the lines in the middle without their margins, a blank
between each two, and without the last comma. -/
def putTogether (first : Text) (middle : List Text) (last : Text) : Text :=
  first ++ (Text.joinWith " " (middle.map (·.drop margin.length))).dropLast ++ last

/-- A parameter without line ends is printed as its line. -/
theorem indent_parameterText {p : Parameter} (h : Text.InLine p.text) :
    indent (p.text ++ ",\n") = parameterLine p ++ ['\n'] := by
  have inLine : Text.InLine (p.text ++ [',']) := Text.inLine_append_iff.mpr ⟨h, by decide⟩
  have comma : Text.isBlank ',' = false := by decide
  have ink : Text.hasInk (p.text ++ [',']) = true := by simp [Text.hasInk, comma]
  have split : p.text ++ ",\n" = p.text ++ [','] ++ '\n' :: [] := by simp
  rw [indent, split, Text.indentBy_append_lineFeed, Text.indentBy_body margin inLine,
    Text.indentLine, if_pos ink, parameterLine]
  simp [Text.indentBy, Text.lines]

/-- Printed on a line, a parameter has a comma and a line feed more at least. -/
theorem length_le_length_indent (p : Parameter) :
    p.text.length + 2 ≤ (indent (p.text ++ ",\n")).length := by
  have kept := (Text.sublist_indentFrom margin true (p.text ++ ",\n")).length_le
  rw [← Text.indentBy_eq_indentFrom, List.length_append] at kept
  exact kept

namespace Function

variable {f : Function} {shown : List Parameter}

/-- The signature has the one order of its parameters that a call needs. -/
theorem isCallOrder_iff : IsCallOrder f.parameters shown ↔ shown = f.signatureParameters := by
  have parts : f.signatureParameters =
      f.parameters.filter (! ·.default.isSome) ++ f.parameters.filter (·.default.isSome) := by
    simp only [Option.not_isSome]
    rfl
  constructor
  · intro h
    have cut := filter_append_filter_of_pairwise h.requiredFirst
    simp only [Option.not_isSome] at cut
    rw [← cut, h.required, h.optional, signatureParameters]
  · rintro rfl
    rw [parts]
    refine ⟨?_, pairwise_filter_append_filter _ _, ?_, ?_⟩
    · exact List.perm_append_comm.trans (List.filter_append_perm _ _)
    · simp only [← Option.not_isSome]
      exact filter_early _ _
    · exact filter_late _ _

/-- The form with a line for each parameter is the longer one. -/
theorem length_oneLine_lt (f : Function) : f.oneLine.length < f.perLine.length := by
  let lines := f.signatureParameters.map fun p => indent (p.text ++ ",\n")
  have printed : (Text.joinWith ", " (f.signatureParameters.map Parameter.text)).length ≤
      lines.flatten.length :=
    Text.length_joinWith_le fun p _ => length_le_length_indent p
  have short : f.oneLine.length = f.opening.length +
      (Text.joinWith ", " (f.signatureParameters.map Parameter.text)).length +
        f.closing.length := by
    rw [oneLine, List.length_append, List.length_append]
  have long : f.perLine.length =
      f.opening.length + 1 + lines.flatten.length + f.closing.length := by
    rw [perLine, List.length_append, List.length_append, List.length_append]
    rfl
  rw [short, long]
  omega

/-- The form with a line for each parameter, where no parameter holds a line end. -/
theorem perLine_eq_joinWith (inLine : ∀ p ∈ f.parameters, Text.InLine p.text) :
    f.perLine = Text.joinWith "\n"
      (f.opening :: f.signatureParameters.map parameterLine ++ [f.closing]) := by
  have printed : (f.signatureParameters.map fun p => indent (p.text ++ ",\n")) =
      (f.signatureParameters.map parameterLine).map fun line => line ++ ['\n'] := by
    rw [List.map_map]
    exact List.map_congr_left fun p shown =>
      indent_parameterText (inLine p (mem_signatureParameters shown))
  rw [Text.joinWith_lineFeed_concat, perLine, printed]
  simp

/-- The lines of the parameters are put together to the form on one line. -/
theorem putTogether_parameterLines (f : Function) (shown : List Parameter) :
    putTogether f.opening (shown.map parameterLine) f.closing =
      f.opening ++ Text.joinWith ", " (shown.map Parameter.text) ++ f.closing := by
  have cut : (shown.map parameterLine).map (·.drop margin.length) =
      (shown.map Parameter.text).map fun text => text ++ [','] := by
    rw [List.map_map, List.map_map]
    apply List.map_congr_left
    intro p _
    rfl
  rw [putTogether, cut, Text.dropLast_joinWith_comma]

/-- The signature is on one line exactly if that form is short enough or there are fewer than
two parameters. -/
theorem signature_eq_oneLine_iff (f : Function) :
    f.signature = f.oneLine ↔ f.oneLine.length ≤ maxLineLength ∨ f.parameters.length < 2 := by
  rw [signature]
  split
  · rename_i short
    exact iff_of_true rfl short
  · rename_i long
    refine iff_of_false ?_ long
    intro same
    have longer := length_oneLine_lt f
    rw [same] at longer
    exact Nat.lt_irrefl _ longer

/-- A signature shows every parameter once, in the one order that a call needs.  It has them
on one line exactly if that form has at most 88 characters or there are fewer than two of
them; else each is printed behind a margin and with a comma.  Where no parameter holds a line
end this is one line for each, between the opening and the closing one, and the lines can be
put together to the form on one line. -/
theorem signature_keeps_parameters (f : Function) :
    ∃ shown, (∀ order, IsCallOrder f.parameters order ↔ order = shown) ∧
      let oneLine := f.opening ++ Text.joinWith ", " (shown.map Parameter.text) ++ f.closing
      let short := oneLine.length ≤ 88 ∨ f.parameters.length < 2
      (f.signature = oneLine ↔ short) ∧
        (¬ short → f.signature = f.opening ++ "\n" ++
          (shown.map fun p => indent (p.text ++ ",\n")).flatten ++ f.closing) ∧
        (¬ short → (∀ p ∈ f.parameters, Text.InLine p.text) →
          f.signature =
              Text.joinWith "\n" (f.opening :: shown.map parameterLine ++ [f.closing]) ∧
            putTogether f.opening (shown.map parameterLine) f.closing = oneLine) := by
  have perLine : ¬ (f.oneLine.length ≤ 88 ∨ f.parameters.length < 2) →
      f.signature = f.perLine := fun long => if_neg long
  refine ⟨f.signatureParameters, fun _ => isCallOrder_iff, signature_eq_oneLine_iff f, perLine, ?_⟩
  intro long inLine
  exact ⟨(perLine long).trans (perLine_eq_joinWith inLine),
    putTogether_parameterLines f f.signatureParameters⟩

/-- A function of four parameters with and without defaults, mixed. -/
def searchFunction : Function where
  name := "search"
  parameters := [⟨"self", none, none⟩,
    ⟨"limit", some "10", some (.name "int")⟩,
    ⟨"query", none, some (.group [.name "str", .name "Any"] (some "Dict"))⟩,
    ⟨"headers", some "None", some (.group [.name "str"] (some "Optional"))⟩]
  response := some "Any"
  isAsync := true

/-- On that function: the form on one line is too long, so there is a line for each
parameter, `query` before `limit`. -/
theorem signature_keeps_parameters_mixed :
    let shown := [⟨"self", none, none⟩,
      ⟨"query", none, some (.group [.name "str", .name "Any"] (some "Dict"))⟩,
      ⟨"limit", some "10", some (.name "int")⟩,
      ⟨"headers", some "None", some (.group [.name "str"] (some "Optional"))⟩]
    IsCallOrder searchFunction.parameters shown ∧
      ¬ (searchFunction.oneLine.length ≤ 88 ∨ searchFunction.parameters.length < 2) ∧
      (∀ p ∈ searchFunction.parameters, Text.InLine p.text) ∧
      searchFunction.signature = Text.joinWith "\n" (["async def search(", "    self,",
        "    query: Dict[str, Any],", "    limit: int = 10,",
        "    headers: Optional[str] = None,", ") -> Any:"].map String.toList) ∧
      putTogether searchFunction.opening (shown.map parameterLine) searchFunction.closing =
        searchFunction.oneLine := by
  intro shown
  obtain ⟨order, only, -, -, perLine⟩ := signature_keeps_parameters searchFunction
  obtain rfl : shown = order := (only shown).mp (isCallOrder_iff.mpr rfl)
  have long : ¬ (searchFunction.oneLine.length ≤ 88 ∨ searchFunction.parameters.length < 2) := by
    decide
  have inLine : ∀ p ∈ searchFunction.parameters, Text.InLine p.text := by decide
  obtain ⟨lines, joined⟩ := perLine long inLine
  exact ⟨(only shown).mpr rfl, long, inLine, lines, joined⟩

end Function

end Code

end ClientGen
