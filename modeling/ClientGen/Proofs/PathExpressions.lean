/-
# Path expressions substitute their placeholders and lose nothing

Three things are compared that are each given on their own: where the placeholders of a
path are, what an expression reads as by the rules of the language, and what it evaluates
to.  A path is cut at its placeholders from the left, each as short as it can be.  The
expression for the path is read as one term for each piece: a look-up where the piece is a
declared placeholder, and else a literal of the piece as it stands.  So the path can be put
together again from the terms, and the value of the expression is the path with the declared
placeholders, and nothing else, replaced.
-/
import ClientGen.Client.PathExpression
import ClientGen.Proofs.LiteralValues
import ClientGen.Url.Percent
import Mathlib.Data.List.Forall2

namespace ClientGen

namespace Template

/-! ## Where the placeholders are -/

/-- Whether a text can be the name of a placeholder: no closing brace in it ends the
placeholder before, and no line feed keeps it from being one. -/
def IsName (name : Text) : Prop := '}' ∉ name ∧ '\n' ∉ name

/-- A placeholder begins the text. -/
def Begins (t : Text) : Prop := ∃ name, IsName name ∧ (Chunk.placeholder name).source <+: t

/-- No placeholder begins within the first of two texts where the second follows. -/
def NoneWithin (t rest : Text) : Prop := ∀ u v, t = u ++ v → v ≠ [] → ¬ Begins (v ++ rest)

/-- A stretch of literal text, unless it is empty. -/
def stretch (t : Text) : List Chunk := if t = [] then [] else [.literal t]

/-- A text is cut at its placeholders: up to the first place where one begins it is literal,
then comes the placeholder, and what follows is cut in the same way. -/
inductive Cuts : Text → List Chunk → Prop
  | last {t : Text} : NoneWithin t [] → Cuts t (stretch t)
  | next {t name rest : Text} {chunks : List Chunk} :
      NoneWithin t ((Chunk.placeholder name).source ++ rest) → IsName name → Cuts rest chunks →
      Cuts (t ++ ((Chunk.placeholder name).source ++ rest))
        (stretch t ++ .placeholder name :: chunks)

/-! ## Finding them -/

variable {t name rest : Text} {c : Char}

/-- What a name before a closing brace is found to be. -/
theorem nameBefore?_eq_some_iff :
    nameBefore? t = some name ↔ IsName name ∧ name ++ ['}'] <+: t := by
  constructor
  · intro found
    induction t generalizing name with
    | nil => cases found
    | cons c rest ih =>
        rw [nameBefore?] at found
        split at found
        · subst c
          cases found
          exact ⟨⟨List.not_mem_nil, List.not_mem_nil⟩, [] ++ rest, rfl⟩
        · rename_i noBrace
          split at found
          · cases found
          · rename_i noFeed
            obtain ⟨inner, later, rfl⟩ := Option.map_eq_some_iff.mp found
            obtain ⟨⟨brace, feed⟩, start⟩ := ih later
            refine ⟨⟨?_, ?_⟩, List.cons_prefix_cons.mpr ⟨rfl, start⟩⟩
            · exact List.mem_cons.not.mpr (not_or.mpr ⟨Ne.symm noBrace, brace⟩)
            · exact List.mem_cons.not.mpr (not_or.mpr ⟨Ne.symm noFeed, feed⟩)
  · rintro ⟨⟨brace, feed⟩, start⟩
    induction name generalizing t with
    | nil =>
        obtain ⟨rest, rfl⟩ := start
        rfl
    | cons c name ih =>
        obtain ⟨noBrace, brace⟩ := not_or.mp (List.mem_cons.not.mp brace)
        obtain ⟨noFeed, feed⟩ := not_or.mp (List.mem_cons.not.mp feed)
        obtain ⟨rest, rfl⟩ := start
        have later : nameBefore? (name ++ ['}'] ++ rest) = some name :=
          ih (List.prefix_append _ _) brace feed
        rw [List.cons_append, List.cons_append, nameBefore?, if_neg (Ne.symm noBrace),
          if_neg (Ne.symm noFeed), later]
        rfl

/-- A placeholder is found where one begins. -/
theorem placeholder?_eq_some_iff :
    placeholder? t = some name ↔ IsName name ∧ (Chunk.placeholder name).source <+: t := by
  cases t with
  | nil => simp [placeholder?, Chunk.source]
  | cons c rest =>
      rw [placeholder?, Chunk.source, List.cons_append, List.cons_prefix_cons]
      split
      · subst c
        simp [nameBefore?_eq_some_iff]
      · rename_i other
        simp [Ne.symm other]

theorem placeholder?_eq_none_iff : placeholder? t = none ↔ ¬ Begins t := by
  simp [Option.eq_none_iff_forall_ne_some, placeholder?_eq_some_iff, Begins]

/-- Characters that belong to a placeholder are passed over. -/
theorem chunksFrom_append (skipped rest : Text) :
    chunksFrom skipped.length (skipped ++ rest) = chunks rest := by
  induction skipped with
  | nil => rfl
  | cons c skipped ih => exact ih

/-- A placeholder is cut off. -/
theorem chunks_placeholder (isName : IsName name) (rest : Text) :
    chunks ((Chunk.placeholder name).source ++ rest) = .placeholder name :: chunks rest := by
  have found : placeholder? ('{' :: (name ++ ['}'] ++ rest)) = some name :=
    placeholder?_eq_some_iff.mpr ⟨isName, List.prefix_append _ _⟩
  have size : name.length + 1 = (name ++ ['}']).length := by simp
  rw [Chunk.source, List.cons_append, List.cons_append, chunks, chunksFrom, found]
  dsimp only
  rw [size, chunksFrom_append]

/-- A character where no placeholder begins is literal. -/
theorem chunks_cons (none : ¬ Begins (c :: rest)) :
    chunks (c :: rest) = consLiteral c (chunks rest) := by
  rw [chunks, chunksFrom, placeholder?_eq_none_iff.mpr none]
  rfl

/-! ## The cut is the only one -/

theorem NoneWithin.head (h : NoneWithin (c :: t) rest) : ¬ Begins (c :: (t ++ rest)) :=
  h [] (c :: t) rfl (List.cons_ne_nil c t)

theorem NoneWithin.tail (h : NoneWithin (c :: t) rest) : NoneWithin t rest :=
  fun u v split nonempty => h (c :: u) v (congrArg (c :: ·) split) nonempty

theorem NoneWithin.cons (h : NoneWithin t rest) (none : ¬ Begins (c :: (t ++ rest))) :
    NoneWithin (c :: t) rest := by
  intro u v split nonempty
  cases u with
  | nil =>
      rw [List.nil_append] at split
      exact split ▸ none
  | cons d u => exact h u v (List.cons.inj split).2 nonempty

theorem noneWithin_nil (rest : Text) : NoneWithin [] rest := by
  intro u v split nonempty
  exact absurd (List.append_eq_nil_iff.mp split.symm).2 nonempty

/-- A character in front of a stretch belongs to the stretch; before anything else it is a
stretch of its own. -/
theorem consLiteral_stretch (c : Char) (t : Text) {more : List Chunk}
    (noLiteral : ∀ u others, more ≠ .literal u :: others) :
    consLiteral c (stretch t ++ more) = stretch (c :: t) ++ more := by
  cases t with
  | cons d t => rfl
  | nil =>
      cases more with
      | nil => rfl
      | cons chunk others =>
          cases chunk with
          | literal u => exact absurd rfl (noLiteral u others)
          | placeholder name => rfl

/-- A text within which no placeholder begins is a stretch in front of what follows. -/
theorem chunks_stretch (none : NoneWithin t rest)
    (noLiteral : ∀ u others, chunks rest ≠ .literal u :: others) :
    chunks (t ++ rest) = stretch t ++ chunks rest := by
  induction t with
  | nil => rfl
  | cons c t ih =>
      rw [List.cons_append, chunks_cons none.head, ih none.tail, consLiteral_stretch c t noLiteral]

/-- The chunks of a path are the only way to cut it. -/
theorem Cuts.eq_chunks {pieces : List Chunk} (h : Cuts t pieces) : pieces = chunks t := by
  induction h with
  | last none =>
      have whole := chunks_stretch none (by rintro u others ⟨⟩)
      rw [List.append_nil] at whole
      rw [whole]
      exact (List.append_nil _).symm
  | @next t name rest chunks none isName _ ih =>
      have cut := chunks_placeholder isName rest
      rw [chunks_stretch none (by rw [cut]; rintro u others ⟨⟩), cut, ih]

/-- A character where no placeholder begins lengthens the cut. -/
theorem Cuts.cons {pieces : List Chunk} (h : Cuts rest pieces) (none : ¬ Begins (c :: rest)) :
    Cuts (c :: rest) (consLiteral c pieces) := by
  cases h with
  | last within =>
      have cut := Cuts.last (within.cons (by rwa [List.append_nil]))
      have same : consLiteral c (stretch rest ++ []) = stretch (c :: rest) ++ [] :=
        consLiteral_stretch c rest (by rintro u others ⟨⟩)
      rw [List.append_nil, List.append_nil] at same
      rwa [same]
  | next within isName later =>
      rw [consLiteral_stretch c _ (by rintro u others ⟨⟩)]
      exact Cuts.next (within.cons none) isName later

/-- Every path is cut into its chunks. -/
theorem cuts_chunks (path : Text) : Cuts path (chunks path) := by
  induction size : path.length using Nat.strong_induction_on generalizing path with
  | _ n ih =>
      by_cases begins : Begins path
      · obtain ⟨name, isName, rest, rfl⟩ := begins
        have shorter : rest.length < n := by
          rw [← size, List.length_append, Chunk.source]
          simp
        rw [chunks_placeholder isName]
        exact Cuts.next (noneWithin_nil _) isName (ih _ shorter rest rfl)
      · cases path with
        | nil => exact Cuts.last (noneWithin_nil [])
        | cons c rest =>
            have shorter : rest.length < n := by
              rw [← size]
              exact Nat.lt_succ_self _
            rw [chunks_cons begins]
            exact (ih _ shorter rest rfl).cons begins

theorem flatMap_source_stretch (t : Text) : (stretch t).flatMap Chunk.source = t := by
  cases t with
  | nil => rfl
  | cons c t => exact List.append_nil _

/-- Cutting a path loses nothing. -/
theorem Cuts.flatMap_source {pieces : List Chunk} (h : Cuts t pieces) :
    pieces.flatMap Chunk.source = t := by
  induction h with
  | last none => exact flatMap_source_stretch _
  | next none isName _ ih =>
      rw [List.flatMap_append, List.flatMap_cons, flatMap_source_stretch, ih]

/-! ## What is put in -/

/-- Whether a name is declared; without a list of names every one is. -/
def IsDeclared (declared : Option (List Text)) (name : Text) : Prop :=
  ∀ names, declared = some names → name ∈ names

theorem isDeclared_iff {declared : Option (List Text)} :
    IsDeclared declared name ↔ declared.all (·.contains name) = true := by
  cases declared <;> simp [IsDeclared]

instance (declared : Option (List Text)) (name : Text) : Decidable (IsDeclared declared name) :=
  decidable_of_iff _ isDeclared_iff.symm

/-- Whether `c` stands for itself in a percent-encoded value. -/
def isUnreserved (c : Char) : Bool := Text.isAsciiWord c || ['_', '.', '-', '~'].elem c

/-- A percent-encoded value. -/
def percentEncoded (value : Text) : Text := value.flatMap (Percent.encodeChar isUnreserved)

/-- The value that is put in for an argument. -/
def shown (encode : Bool) (value : Text) : Text := if encode then percentEncoded value else value

/-- What takes the place of a chunk, where `assign` gives the text of each argument: for a
declared placeholder the value of its name, and for everything else what is there. -/
def Chunk.replaced? (declared : Option (List Text)) (encode : Bool)
    (assign : Text → Option Text) : Chunk → Option Text
  | .literal t => some t
  | .placeholder name =>
    if IsDeclared declared name then (assign name).map (shown encode)
    else some (Chunk.placeholder name).source

/-- Values under names that are not declared do not matter. -/
theorem Chunk.replaced?_congr {declared : Option (List Text)} (encode : Bool)
    {assign assign' : Text → Option Text}
    (same : ∀ name, IsDeclared declared name → assign name = assign' name) :
    replaced? declared encode assign = replaced? declared encode assign' := by
  funext chunk
  cases chunk with
  | literal t => rfl
  | placeholder name =>
      by_cases isDeclared : IsDeclared declared name
      · simp only [replaced?, same name isDeclared]
      · simp only [replaced?, if_neg isDeclared]

end Template

/-! ## Reading expressions -/

/-- A term of an expression as it is read: a text, or the look-up of an argument, whose
value may be percent-encoded. -/
inductive SourceTerm
  | text (value : Text)
  | lookUp (key : Text) (encoded : Bool)
  deriving DecidableEq, Repr

namespace SourceTerm

/-- The key of the look-up that a text begins with, and the text after it. -/
def readLookUp? (t : Text) : Option (Text × Text) := do
  let rest ← Text.dropStart? "str(path_params[" t
  let (key, rest) ← Literal.read? rest
  let rest ← Text.dropStart? "])" rest
  some (key, rest)

/-- The term that a text begins with, and the text after it. -/
def read? (t : Text) : Option (SourceTerm × Text) :=
  match Text.dropStart? "quote(" t with
  | some rest => do
    let (key, rest) ← readLookUp? rest
    let rest ← Text.dropStart? ", safe='')" rest
    some (.lookUp key true, rest)
  | none =>
    match readLookUp? t with
    | some (key, rest) => some (.lookUp key false, rest)
    | none => (Literal.read? t).map fun (value, rest) => (.text value, rest)

/-- The terms of a sum that makes up a text.  The first argument bounds their number; the
length of the text is enough. -/
def readSum? : Nat → Text → Option (List SourceTerm)
  | 0, _ => none
  | fuel + 1, t => do
    let (first, rest) ← read? t
    if rest.isEmpty then some [first]
    else
      let rest ← Text.dropStart? " + " rest
      let more ← readSum? fuel rest
      some (first :: more)

/-- The terms of an expression. -/
def ofExpression? (expression : Text) : Option (List SourceTerm) :=
  readSum? expression.length expression

/-- A term written back into a path: a look-up as the placeholder of its key. -/
def written : SourceTerm → Text
  | .text value => value
  | .lookUp key _ => (Template.Chunk.placeholder key).source

/-- The value of a term, where `assign` gives the text of each argument; there is none for
an argument that is missing. -/
def value? (assign : Text → Option Text) : SourceTerm → Option Text
  | .text value => some value
  | .lookUp key encoded => (assign key).map (Template.shown encoded)

/-- The value of an expression: those of its terms, one after the other. -/
def evaluate? (assign : Text → Option Text) (expression : Text) : Option Text := do
  let terms ← ofExpression? expression
  let values ← terms.mapM (value? assign)
  some values.flatten

/-- What a term of a path expression is read as. -/
def ofTerm (encode : Bool) : PathTerm → SourceTerm
  | .literal t => .text t
  | .argument name => .lookUp name encode

variable {encode : Bool} {t rest : Text}

theorem dropStart?_append (start rest : Text) :
    Text.dropStart? start (start ++ rest) = some rest := by
  rw [Text.dropStart?, if_pos (List.isPrefixOf_iff_prefix.mpr (List.prefix_append _ _)),
    List.drop_left]

/-- A text that begins with another character is not cut. -/
theorem dropStart?_eq_none {c d : Char} (different : c ≠ d) (start rest : Text) :
    Text.dropStart? (c :: start) (d :: rest) = none := by
  rw [Text.dropStart?, if_neg]
  simp [List.isPrefixOf, different]

/-- A look-up is read. -/
theorem readLookUp?_append (name rest : Text) :
    readLookUp? (PathTerm.lookUp name ++ rest) = some (name, rest) := by
  have written : PathTerm.lookUp name ++ rest =
      "str(path_params[" ++ (Literal.encode name ++ ("])" ++ rest)) := by
    unfold PathTerm.lookUp
    simp
  have key : Literal.read? (Literal.encode name ++ ("])" ++ rest)) = some (name, "])" ++ rest) :=
    Literal.read?_encode_append name ⟨by simp, by simp⟩
  rw [written, readLookUp?, dropStart?_append]
  simp only [Option.bind_eq_bind, Option.bind_some, key, dropStart?_append]

/-- A term of a path expression is read. -/
theorem read?_text (encode : Bool) (term : PathTerm) (rest : Text)
    (apart : rest.head? ≠ some '\'' ∧ rest.head? ≠ some '"') :
    read? (term.text encode ++ rest) = some (ofTerm encode term, rest) := by
  cases term with
  | literal t =>
      obtain ⟨quote, inside, literal, noQ, noS⟩ : ∃ quote inside,
          Literal.encode t ++ rest = quote :: inside ∧ 'q' ≠ quote ∧ 's' ≠ quote := by
        refine ⟨Literal.quoteFor t, _, rfl, ?_⟩
        rw [Literal.quoteFor_eq]
        cases Literal.quoteOf t <;> decide
      have noCall : Text.dropStart? "quote(" (Literal.encode t ++ rest) = none :=
        literal ▸ dropStart?_eq_none noQ _ _
      have noLookUp : readLookUp? (Literal.encode t ++ rest) = none := by
        have none : Text.dropStart? "str(path_params[" (Literal.encode t ++ rest) = none :=
          literal ▸ dropStart?_eq_none noS _ _
        rw [readLookUp?, none]
        rfl
      rw [PathTerm.text, read?, noCall, noLookUp, Literal.read?_encode_append t apart]
      rfl
  | argument name =>
      cases encode with
      | true =>
          have written : PathTerm.text true (.argument name) ++ rest =
              "quote(" ++ (PathTerm.lookUp name ++ (", safe='')" ++ rest)) := by
            unfold PathTerm.text
            simp
          rw [written, read?, dropStart?_append]
          simp only [Option.bind_eq_bind, Option.bind_some, readLookUp?_append, dropStart?_append]
          rfl
      | false =>
          have written : PathTerm.text false (.argument name) = PathTerm.lookUp name := rfl
          have noCall : Text.dropStart? "quote(" (PathTerm.lookUp name ++ rest) = none :=
            dropStart?_eq_none (by decide) _ _
          rw [written, read?, noCall, readLookUp?_append]
          rfl

/-- The terms of a sum are read. -/
theorem readSum?_joinWith (encode : Bool) {terms : List PathTerm} (some_ : terms ≠ []) {fuel : Nat}
    (enough : terms.length ≤ fuel) :
    readSum? fuel (Text.joinWith " + " (terms.map (PathTerm.text encode))) =
      some (terms.map (ofTerm encode)) := by
  induction terms generalizing fuel with
  | nil => exact absurd rfl some_
  | cons term rest ih =>
      cases fuel with
      | zero => cases enough
      | succ fuel =>
          cases rest with
          | nil =>
              have first := read?_text encode term [] ⟨by simp, by simp⟩
              rw [List.append_nil] at first
              rw [List.map_singleton, Text.joinWith, readSum?, first]
              rfl
          | cons next more =>
              have later := ih (List.cons_ne_nil next more) (Nat.le_of_succ_le_succ enough)
              rw [List.map_cons, Text.joinWith_cons _ _ (by simp), List.append_assoc]
              generalize Text.joinWith " + " ((next :: more).map (PathTerm.text encode)) = sum
                at later ⊢
              have first := read?_text encode term (" + " ++ sum) ⟨by simp, by simp⟩
              have onward : (" + " ++ sum : Text).isEmpty = false := by simp
              rw [readSum?, first]
              simp only [Option.bind_eq_bind, Option.bind_some, onward, dropStart?_append, later]
              rfl

/-- A term is not empty. -/
theorem text_ne_nil (encode : Bool) (term : PathTerm) : term.text encode ≠ [] := by
  intro empty
  have read := read?_text encode term [] ⟨by simp, by simp⟩
  rw [empty, List.append_nil] at read
  cases read

/-- The expression for a path is read as the terms of the path. -/
theorem ofExpression?_pathExpression (path : Text) (declared : Option (List Text))
    (encode : Bool) :
    ofExpression? (pathExpression path declared encode) =
      some (if path = [] then [.text []]
        else (PathTerm.ofPath declared path).map (ofTerm encode)) := by
  have pieces := (Template.cuts_chunks path).flatMap_source
  rw [pathExpression]
  split
  · rename_i none
    have empty : path = [] := by
      rw [← pieces, List.map_eq_nil_iff.mp none]
      rfl
    rw [if_pos empty]
    rfl
  · rename_i terms some_
    have nonempty : path ≠ [] := by
      rintro rfl
      exact some_ rfl
    rw [if_neg nonempty]
    apply readSum?_joinWith encode some_
    rw [← List.length_map (PathTerm.text encode)]
    apply Text.length_le_length_joinWith
    intro piece among
    obtain ⟨term, -, rfl⟩ := List.mem_map.mp among
    exact text_ne_nil encode term

/-! ## The substitution -/

/-- What stands for a chunk in an expression: a look-up for a declared placeholder, and for
everything else a literal of what is there. -/
inductive Shows (declared : Option (List Text)) (encode : Bool) :
    Template.Chunk → SourceTerm → Prop
  | literal (t : Text) : Shows declared encode (.literal t) (.text t)
  | lookUp {name : Text} : Template.IsDeclared declared name →
      Shows declared encode (.placeholder name) (.lookUp name encode)
  | kept {name : Text} : ¬ Template.IsDeclared declared name →
      Shows declared encode (.placeholder name) (.text (Template.Chunk.placeholder name).source)

variable {declared : Option (List Text)} {chunk : Template.Chunk} {term : SourceTerm}

theorem shows_ofChunk (declared : Option (List Text)) (encode : Bool) (chunk : Template.Chunk) :
    Shows declared encode chunk (ofTerm encode (PathTerm.ofChunk declared chunk)) := by
  cases chunk with
  | literal t => exact .literal t
  | placeholder name =>
      rw [PathTerm.ofChunk]
      split
      · rename_i isDeclared
        exact .lookUp (Template.isDeclared_iff.mpr isDeclared)
      · rename_i undeclared
        exact .kept (Template.isDeclared_iff.not.mpr undeclared)

/-- What stands for a chunk is written back as the chunk. -/
theorem Shows.written_eq (h : Shows declared encode chunk term) : term.written = chunk.source := by
  cases h <;> rfl

/-- What stands for a chunk has the value that is put in for it. -/
theorem Shows.value?_eq (h : Shows declared encode chunk term) (assign : Text → Option Text) :
    term.value? assign = chunk.replaced? declared encode assign := by
  cases h with
  | literal t => rfl
  | lookUp isDeclared => exact (if_pos isDeclared).symm
  | kept undeclared => exact (if_neg undeclared).symm

/-- The terms of a path stand for its chunks one by one. -/
theorem forall₂_shows (declared : Option (List Text)) (encode : Bool) (path : Text) :
    List.Forall₂ (Shows declared encode) (Template.chunks path)
      ((PathTerm.ofPath declared path).map (ofTerm encode)) := by
  rw [PathTerm.ofPath, List.map_map, List.forall₂_map_right_iff, List.forall₂_same]
  exact fun chunk _ => shows_ofChunk declared encode chunk

variable {chunks : List Template.Chunk} {terms : List SourceTerm}

theorem flatMap_written (h : List.Forall₂ (Shows declared encode) chunks terms) :
    terms.flatMap written = chunks.flatMap Template.Chunk.source := by
  induction h with
  | nil => rfl
  | cons first _ ih => rw [List.flatMap_cons, List.flatMap_cons, first.written_eq, ih]

theorem mapM_value? (h : List.Forall₂ (Shows declared encode) chunks terms)
    (assign : Text → Option Text) :
    terms.mapM (value? assign) = chunks.mapM (Template.Chunk.replaced? declared encode assign) := by
  induction h with
  | nil => rfl
  | cons first _ ih => rw [List.mapM_cons, List.mapM_cons, first.value?_eq, ih]

end SourceTerm

open Template SourceTerm

/-- The expression for a path is a lossless substitution.  The path is cut in one way; the
expression is read as one term for each piece, a look-up for a declared placeholder and a
literal for everything else; and the terms are written back as the path.  The value of the
expression, for any values of the arguments, is the path with each declared placeholder
replaced, and it is there if their values are; values under other names do not matter. -/
theorem pathExpression_substitutes (path : Text) (declared : Option (List Text))
    (encode : Bool) :
    ∃ chunks terms, (∀ pieces, Cuts path pieces ↔ pieces = chunks) ∧
      ofExpression? (pathExpression path declared encode) = some terms ∧
      (path = [] → terms = [.text []]) ∧
      (path ≠ [] → List.Forall₂ (Shows declared encode) chunks terms) ∧
      terms.flatMap written = path ∧
      (∀ assign, evaluate? assign (pathExpression path declared encode) =
        (chunks.mapM (Chunk.replaced? declared encode assign)).map List.flatten) ∧
      ∀ assign assign', (∀ name, IsDeclared declared name → assign name = assign' name) →
        evaluate? assign (pathExpression path declared encode) =
          evaluate? assign' (pathExpression path declared encode) := by
  have reads := ofExpression?_pathExpression path declared encode
  have shows := forall₂_shows declared encode path
  have value : ∀ assign, evaluate? assign (pathExpression path declared encode) =
      ((chunks path).mapM (Chunk.replaced? declared encode assign)).map List.flatten := by
    intro assign
    rw [evaluate?, reads]
    by_cases empty : path = []
    · subst empty
      rfl
    · rw [if_neg empty, ← mapM_value? shows assign]
      rw [Option.map_eq_bind]
      rfl
  refine ⟨chunks path, _, ?_, reads, ?_, ?_, ?_, value, ?_⟩
  · exact fun pieces => ⟨Cuts.eq_chunks, fun same => same ▸ cuts_chunks path⟩
  · exact fun empty => if_pos empty
  · intro nonempty
    rw [if_neg nonempty]
    exact shows
  · by_cases empty : path = []
    · subst empty
      rfl
    · rw [if_neg empty, flatMap_written shows]
      exact (cuts_chunks path).flatMap_source
  · intro assign assign' same
    rw [value, value, Chunk.replaced?_congr encode same]

example : evaluate? (fun _ => some "a b") (pathExpression "/it's/\x7bid\x7d" none true) =
    some "/it's/a%20b" := by
  decide +kernel

/-- A path with a brace in the name of a placeholder, a line feed within braces, a quote, and
a placeholder that is not declared. -/
def nestedPath : Text := "/\x7ba\x7bb\x7d/\x7bc\n\x7d/it's \x7bd\x7d"

/-- On the path: only the declared placeholder is replaced, and no other value is looked
at. -/
theorem pathExpression_substitutes_nested :
    ∀ (value : Text) (assign : Text → Option Text), assign "a\x7bb".toList = some value →
      evaluate? assign (pathExpression nestedPath (some ["a\x7bb".toList]) false) =
        some ("/" ++ value ++ "/\x7bc\n\x7d/it's \x7bd\x7d") := by
  intro value assign given
  obtain ⟨chunks, terms, cuts, -, -, -, -, evaluates, agree⟩ :=
    pathExpression_substitutes nestedPath (some ["a\x7bb".toList]) false
  have cut : chunks = [.literal "/", .placeholder "a\x7bb",
      .literal "/\x7bc\n\x7d/it's ", .placeholder "d"] := by
    rw [← (cuts _).mp (cuts_chunks nestedPath)]
    decide
  have same : ∀ name, IsDeclared (some ["a\x7bb".toList]) name →
      assign name = if name = "a\x7bb" then some value else none := by
    intro name isDeclared
    obtain rfl := List.mem_singleton.mp (isDeclared _ rfl)
    rw [given, if_pos rfl]
  rw [agree _ _ same, evaluates, cut]
  rfl

end ClientGen
