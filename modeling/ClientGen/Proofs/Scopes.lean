/-
# Methods use the names that they have

The signature of a method, the arguments of its request, the expression of its path and the
imports of its module are made in different places: from the names that the operation
declares, from the placeholders of its path, and from the form of path values.  Here they are
held against each other.  The code of a method is read back as a call, line by line, and the
names that its arguments take are looked for among the parameters and the imports.

Nothing is assumed about the operation.  Its parameters may have no name or one name several
times, and its path and its declarations need not agree: a placeholder that is not declared
is literal text, and so takes no name.
-/
import ClientGen.Proofs.PathExpressions
import ClientGen.Proofs.Rendering

namespace ClientGen

/-! ## Reading a request -/

namespace SourceTerm

/-- The names that a term takes from where it stands. -/
def names : SourceTerm → List Text
  | .text _ => []
  | .lookUp _ encoded =>
    (if encoded then ["quote".toList] else []) ++ ["str".toList, "path_params".toList]

end SourceTerm

/-- What stands for an argument of a call: a name, or a sum of terms. -/
inductive ArgumentValue
  | identifier (name : Text)
  | sum (terms : List SourceTerm)
  deriving DecidableEq, Repr

namespace ArgumentValue

/-- Whether a text is a name: a letter or an underscore, then word characters. -/
def isName (t : Text) : Bool :=
  t.head?.any (fun c => Text.isAsciiLetter c || c = '_') && t.all Identifier.isWordChar

/-- What a text stands for as an argument. -/
def read? (t : Text) : Option ArgumentValue :=
  match SourceTerm.ofExpression? t with
  | some terms => some (.sum terms)
  | none => if isName t then some (.identifier t) else none

/-- The names that an argument takes. -/
def names : ArgumentValue → List Text
  | .identifier name => [name]
  | .sum terms => terms.flatMap SourceTerm.names

end ArgumentValue

/-- An argument of a call: its key and what stands for it, up to a comma. -/
def readArgument? (argument : Text) : Option (Text × ArgumentValue) := do
  let (key, value) := Text.cutAt '=' argument
  let value ← value
  let value ← if value.getLast? = some ',' then some value.dropLast else none
  let value ← ArgumentValue.read? value
  some (key, value)

/-- The arguments of the request that a code returns, each on a line of its own behind a
margin. -/
def readRequest? (code : Text) : Option (List (Text × ArgumentValue)) :=
  match Text.splitAt '\n' code with
  | [] => none
  | first :: rest =>
    if first = "return await self._http.request(" ∧ rest.getLast? = some ")".toList then
      rest.dropLast.mapM fun line => (Text.dropStart? Code.margin line).bind readArgument?
    else none

namespace Text

/-- A text is cut at the first separator. -/
theorem cutAt_append {sep : Char} {front : Text} (none : sep ∉ front) (rest : Text) :
    cutAt sep (front ++ sep :: rest) = (front, some rest) := by
  induction front with
  | nil => simp [cutAt]
  | cons c front ih =>
      obtain ⟨other, none⟩ := not_or.mp (List.mem_cons.not.mp none)
      rw [List.cons_append, cutAt, if_neg (Ne.symm other), ih none]

end Text

/-- An argument is read from its text. -/
theorem readArgument?_append {key : Text} (plain : '=' ∉ key) (value : Text) :
    readArgument? (key ++ "=" ++ value ++ ",") =
      (ArgumentValue.read? value).map (key, ·) := by
  have cut : Text.cutAt '=' (key ++ "=" ++ value ++ ",") = (key, some (value ++ ",")) := by
    have written : (key ++ "=" ++ value ++ "," : Text) = key ++ '=' :: (value ++ ",") := by simp
    rw [written, Text.cutAt_append plain]
  have comma : (value ++ "," : Text).getLast? = some ',' := by simp
  have inner : (value ++ "," : Text).dropLast = value := List.dropLast_concat
  rw [readArgument?]
  simp only [Option.bind_eq_bind, Option.bind_some, cut, comma, inner, if_true]
  cases ArgumentValue.read? value <;> rfl

/-- The arguments of a request are read from its lines. -/
theorem readRequest?_requestText {lines : List Text} (inLine : ∀ line ∈ lines, '\n' ∉ line) :
    readRequest? (Client.requestText lines) = lines.mapM readArgument? := by
  have none : ∀ line ∈ Client.requestBlock lines, '\n' ∉ line := by
    intro line among
    rw [Client.requestBlock, List.mem_cons, List.mem_append, List.mem_singleton] at among
    rcases among with rfl | arguments | rfl
    · decide
    · obtain ⟨line, among, rfl⟩ := List.mem_map.mp arguments
      have blanks : '\n' ∉ Code.margin := by decide
      exact List.mem_append.not.mpr (not_or.mpr ⟨blanks, inLine line among⟩)
    · decide
  have cut : Text.splitAt '\n' (Text.joinWith "\n" (Client.requestBlock lines)) =
      Client.requestBlock lines := Text.splitAt_joinWith (List.cons_ne_nil _ _) none
  rw [readRequest?, Client.requestText_eq, cut]
  simp [Client.requestBlock, List.mapM_map, Function.comp_def, SourceTerm.dropStart?_append]

/-- The literal of a text is read as the text. -/
theorem SourceTerm.ofExpression?_encode (t : Text) :
    ofExpression? (Literal.encode t) = some [.text t] := by
  have nonempty : 1 ≤ (Literal.encode t).length := by simp [Literal.encode]
  exact readSum?_joinWith false (List.cons_ne_nil (PathTerm.literal t) []) nonempty

namespace Client

open Code

variable {op : IndexedOperation} {encode : Bool}

/-! ## The parameters of a method -/

/-- The names that the parameters of a method have, in their order. -/
def parameterNames : List Text :=
  ["self", "path_params", "query", "headers", "body"].map String.toList

/-- The names of the parameters that need not be given. -/
def optionalNames : List Text := ["query", "headers", "body"].map String.toList

namespace MethodShape

variable {m : MethodShape}

/-- A method has its parameters in their order, each at most once. -/
theorem names_parameters (m : MethodShape) :
    (m.parameters.map (·.name)).Sublist parameterNames := by
  have all : ∀ path query headers body : Bool,
      ((MethodShape.mk [] path query headers body []).parameters.map (·.name)).Sublist
        parameterNames := by
    decide
  exact all m.takesPath m.takesQuery m.takesHeaders m.takesBody

/-- Which parameters a method has. -/
theorem mem_names_parameters (m : MethodShape) :
    let names := m.parameters.map (·.name)
    "self".toList ∈ names ∧ ("path_params".toList ∈ names ↔ m.takesPath = true) ∧
      ("query".toList ∈ names ↔ m.takesQuery = true) ∧
      ("headers".toList ∈ names ↔ m.takesHeaders = true) ∧
      ("body".toList ∈ names ↔ m.takesBody = true) := by
  have all : ∀ path query headers body : Bool,
      let names := (MethodShape.mk [] path query headers body []).parameters.map (·.name)
      "self".toList ∈ names ∧ ("path_params".toList ∈ names ↔ path = true) ∧
        ("query".toList ∈ names ↔ query = true) ∧ ("headers".toList ∈ names ↔ headers = true) ∧
        ("body".toList ∈ names ↔ body = true) := by
    decide
  exact all m.takesPath m.takesQuery m.takesHeaders m.takesBody

/-- Which of them have a default, and that none without follows. -/
theorem default_parameters (m : MethodShape) :
    (∀ p ∈ m.parameters,
        p.default = if p.name ∈ optionalNames then some "None".toList else none) ∧
      m.parameters.Pairwise fun p later => later.default = none → p.default = none := by
  have all : ∀ path query headers body : Bool,
      let parameters := (MethodShape.mk [] path query headers body []).parameters
      (∀ p ∈ parameters,
          p.default = if p.name ∈ optionalNames then some "None".toList else none) ∧
        parameters.Pairwise fun p later => later.default = none → p.default = none := by
    decide
  exact all m.takesPath m.takesQuery m.takesHeaders m.takesBody

end MethodShape

/-- Some name is declared for a location exactly if the operation has names of it. -/
theorem not_isEmpty_paramNames_iff {op : Operation} {location : Text} :
    (! (op.paramNames location).isEmpty) = true ↔ ∃ name, op.Declares location name := by
  rw [Bool.not_eq_true', List.isEmpty_eq_false_iff_exists_mem]
  exact exists_congr fun name => Operation.mem_paramNames

/-- The parameters of a method are printed in the order in which they are given. -/
theorem signatureParameters_operationMethod (op : IndexedOperation) (encode : Bool) :
    (operationMethod op encode).signatureParameters = (operationMethod op encode).parameters := by
  have parameters : (operationMethod op encode).parameters = methodParameters op := rfl
  rw [Function.signatureParameters, parameters, methodParameters]
  cases ! op.pathParams.isEmpty <;> cases ! op.queryParams.isEmpty <;>
    cases ! op.headerParams.isEmpty <;> cases op.hasBody <;> rfl

/-- A parameter stands on a line of its own with a margin and a comma. -/
theorem indent_parameter {p : Parameter} (h : p ∈ (operationMethod op encode).parameters) :
    indent (p.text ++ ",\n") = margin ++ p.text ++ ",\n" := by
  have all : ∀ path query headers body : Bool,
      ∀ p ∈ (MethodShape.mk [] path query headers body []).parameters,
        indent (p.text ++ ",\n") = margin ++ p.text ++ ",\n" := by
    decide
  let m := shape op
  exact all m.takesPath m.takesQuery m.takesHeaders m.takesBody p h

/-- The signature of a method, on one line or with a line for each parameter. -/
theorem signature_operationMethod (op : IndexedOperation) (encode : Bool) :
    let f := operationMethod op encode
    let texts := f.parameters.map Parameter.text
    f.signature = "async def " ++ op.functionName ++ "(" ++ Text.joinWith ", " texts ++
        ") -> Any:" ∨
      f.signature = "async def " ++ op.functionName ++ "(\n" ++
        (texts.map fun text => margin ++ text ++ ",\n").flatten ++ ") -> Any:" := by
  intro f texts
  have ordered : f.signatureParameters = f.parameters :=
    signatureParameters_operationMethod op encode
  have opening : f.opening = "async def " ++ op.functionName ++ "(" := rfl
  have closing : f.closing = ") -> Any:" := rfl
  rw [Function.signature]
  split
  · left
    rw [Function.oneLine, ordered, opening, closing]
  · right
    have lines : (f.parameters.map fun p => indent (p.text ++ ",\n")) =
        texts.map fun text => margin ++ text ++ ",\n" := by
      rw [List.map_map]
      exact List.map_congr_left fun p among => indent_parameter among
    rw [Function.perLine, ordered, opening, closing, lines]
    simp

/-! ## The arguments of the request -/

/-- The terms that the path of a request is read as. -/
def pathTerms (op : IndexedOperation) (encode : Bool) : List SourceTerm :=
  if op.path = [] then [.text []]
  else (PathTerm.ofPath (some op.pathParams) op.path).map (SourceTerm.ofTerm encode)

/-- A look-up in the path is that of a declared name, in the form of path values. -/
theorem of_lookUp_mem_pathTerms {key : Text} {encoded : Bool}
    (h : .lookUp key encoded ∈ pathTerms op encode) :
    op.Declares "path" key ∧ encoded = encode := by
  rw [pathTerms] at h
  split at h
  · cases List.mem_singleton.mp h
  · obtain ⟨term, among, same⟩ := List.mem_map.mp h
    obtain ⟨chunk, -, rfl⟩ := List.mem_map.mp among
    have shows := SourceTerm.shows_ofChunk (some op.pathParams) encode chunk
    rw [same] at shows
    cases shows with
    | lookUp declared => exact ⟨Operation.mem_paramNames.mp (declared _ rfl), rfl⟩

/-- The names that the path takes: the path arguments, where a name is declared for the path,
the conversion to text, and the encoding where that is on. -/
theorem of_mem_names_pathTerms {name : Text}
    (h : name ∈ (ArgumentValue.sum (pathTerms op encode)).names) :
    (name = "path_params" ∧ ∃ key, op.Declares "path" key) ∨ name = "str" ∨
      name = "quote" ∧ encode = true := by
  obtain ⟨term, inTerms, byTerm⟩ := List.mem_flatMap.mp h
  cases term with
  | text value => cases byTerm
  | lookUp key encoded =>
      obtain ⟨declared, rfl⟩ := of_lookUp_mem_pathTerms inTerms
      rcases List.mem_append.mp byTerm with quote | others
      · cases encoded with
        | false => cases quote
        | true => exact Or.inr (Or.inr ⟨List.mem_singleton.mp quote, rfl⟩)
      · rcases List.mem_cons.mp others with rfl | arguments
        · exact Or.inr (Or.inl rfl)
        · exact Or.inl ⟨List.mem_singleton.mp arguments, key, declared⟩

/-- Given values are read as the given values that they are read as. -/
theorem mapM_given {α β : Type} {read : α → Option β} {a : α} {b : β} (h : read a = some b)
    (condition : Bool) : (given condition a).mapM read = some (given condition b) := by
  cases condition with
  | false => rfl
  | true => simp [given, h]

/-- What is read from the code of a method: the path and the HTTP method, and the
parameters with a default, each under its own name. -/
theorem readRequest?_operationMethod (op : IndexedOperation) (encode : Bool) :
    readRequest? (operationMethod op encode).code.text =
      some (("path".toList, .sum (pathTerms op encode)) ::
        ("method".toList, .sum [.text (verb op)]) ::
        ((methodParameters op).filter (·.default.isSome)).map fun p =>
          (p.name, .identifier p.name)) := by
  have text : (operationMethod op encode).code.text = requestText (requestLines op encode) :=
    expandTabs_requestCode op encode
  have inLine : ∀ line ∈ requestLines op encode, '\n' ∉ line :=
    fun line among => (only_requestLines among).not_mem (by decide)
  have path : readArgument? ("path=" ++ operationPath op encode ++ ",") =
      some ("path".toList, .sum (pathTerms op encode)) := by
    have read := readArgument?_append (by decide : '=' ∉ "path".toList) (operationPath op encode)
    rw [ArgumentValue.read?, operationPath, SourceTerm.ofExpression?_pathExpression] at read
    exact read
  have method : readArgument? ("method=" ++ Literal.encode (verb op) ++ ",") =
      some ("method".toList, .sum [.text (verb op)]) := by
    have read := readArgument?_append (by decide : '=' ∉ "method".toList) (Literal.encode (verb op))
    rw [ArgumentValue.read?, SourceTerm.ofExpression?_encode] at read
    exact read
  have query : readArgument? "query=query," = some ("query".toList, .identifier "query") := by
    decide
  have headers : readArgument? "headers=headers," =
      some ("headers".toList, .identifier "headers") := by
    decide
  have body : readArgument? "body=body," = some ("body".toList, .identifier "body") := by
    decide
  have arguments : ((methodParameters op).filter (·.default.isSome)).map (fun p =>
        (p.name, ArgumentValue.identifier p.name)) =
      given (! op.queryParams.isEmpty) ("query".toList, .identifier "query") ++
        given (! op.headerParams.isEmpty) ("headers".toList, .identifier "headers") ++
        given op.hasBody ("body".toList, .identifier "body") := by
    rw [methodParameters]
    cases ! op.pathParams.isEmpty <;> cases ! op.queryParams.isEmpty <;>
      cases ! op.headerParams.isEmpty <;> cases op.hasBody <;> rfl
  have required : ["path=" ++ operationPath op encode ++ ",",
        "method=" ++ Literal.encode (verb op) ++ ","].mapM readArgument? =
      some [("path".toList, .sum (pathTerms op encode)),
        ("method".toList, .sum [.text (verb op)])] := by
    simp only [List.mapM_cons, path, method]
    rfl
  rw [text, readRequest?_requestText inLine, requestLines, List.mapM_append, List.mapM_append,
    List.mapM_append, required, mapM_given query, mapM_given headers, mapM_given body, arguments]
  rfl

/-! ## The names of a method -/

/-- The import of a tag module that percent-encoded path values need. -/
theorem quoteImport_mem_iff (tag className fileName : Text) (operations : List IndexedOperation)
    (encode : Bool) :
    "from urllib.parse import quote".toList ∈
      (tagModule tag className fileName operations encode).imports ↔ encode = true := by
  have imports : ∀ encode : Bool,
      "from urllib.parse import quote".toList ∈ moduleImports encode ↔ encode = true := by
    decide
  exact imports encode

/-- A method uses only the names that it has.  Its parameters are, in this order and each at
most once: itself; the path arguments exactly if a name is declared for the path; and the
query, the headers and the body, exactly if a name is declared for the query, one for the
headers, and there is a body.  The last three default to nothing and the others have no
default.  The code is read as a request with a path, the HTTP method as a text, and exactly
the parameters with a default, each under its own name.  The path looks up only names that
are declared for it, so only where the path arguments are a parameter, and encodes their
values only where the import for it is in the modules made in this form.  Every name that
the arguments take is a parameter, the built-in conversion to text, or this import.  The
parameters are printed in their order, and none without a default follows one with a
default. -/
theorem method_uses_own_names (op : IndexedOperation) (encode : Bool) :
    let f := operationMethod op encode
    let names := f.parameters.map (·.name)
    let texts := f.parameters.map Parameter.text
    (names.Sublist parameterNames ∧ "self".toList ∈ names ∧
        ("path_params".toList ∈ names ↔ ∃ name, op.Declares "path" name) ∧
        ("query".toList ∈ names ↔ ∃ name, op.Declares "query" name) ∧
        ("headers".toList ∈ names ↔ ∃ name, op.Declares "header" name) ∧
        ("body".toList ∈ names ↔ op.requestBody ≠ none)) ∧
      (∀ p ∈ f.parameters,
        p.default = if p.name ∈ optionalNames then some "None".toList else none) ∧
      (∃ terms arguments, readRequest? f.code.text = some arguments ∧
        arguments = ("path".toList, .sum terms) ::
          ("method".toList, .sum [.text (Text.upper op.method)]) ::
          (f.parameters.filter (·.default.isSome)).map (fun p => (p.name, .identifier p.name)) ∧
        (∀ key encoded, .lookUp key encoded ∈ terms →
          op.Declares "path" key ∧ "path_params".toList ∈ names ∧ encoded = encode) ∧
        ∀ argument ∈ arguments, ∀ name ∈ argument.2.names,
          name ∈ names ∨ name = "str" ∨ name = "quote" ∧ encode = true) ∧
      (∀ tag className fileName operations,
        "from urllib.parse import quote".toList ∈
          (tagModule tag className fileName operations encode).imports ↔ encode = true) ∧
      (f.signature = "async def " ++ op.functionName ++ "(" ++ Text.joinWith ", " texts ++
          ") -> Any:" ∨
        f.signature = "async def " ++ op.functionName ++ "(\n" ++
          (texts.map fun text => margin ++ text ++ ",\n").flatten ++ ") -> Any:") ∧
      f.parameters.Pairwise fun p later => later.default = none → p.default = none := by
  intro f names texts
  obtain ⟨self, path, query, headers, body⟩ := (shape op).mem_names_parameters
  obtain ⟨defaults, requiredFirst⟩ := (shape op).default_parameters
  have path := path.trans not_isEmpty_paramNames_iff
  have hasBody : op.hasBody = true ↔ op.requestBody ≠ none := Option.isSome_iff_ne_none
  have lookUps : ∀ key encoded, .lookUp key encoded ∈ pathTerms op encode →
      op.Declares "path" key ∧ "path_params".toList ∈ names ∧ encoded = encode := by
    intro key encoded among
    obtain ⟨declared, same⟩ := of_lookUp_mem_pathTerms among
    exact ⟨declared, path.mpr ⟨key, declared⟩, same⟩
  refine ⟨⟨(shape op).names_parameters, self, path, query.trans not_isEmpty_paramNames_iff,
    headers.trans not_isEmpty_paramNames_iff, body.trans hasBody⟩, defaults,
    ⟨pathTerms op encode, _, readRequest?_operationMethod op encode, rfl, lookUps, ?_⟩,
    fun tag className fileName operations =>
      quoteImport_mem_iff tag className fileName operations encode,
    signature_operationMethod op encode, requiredFirst⟩
  intro argument among name taken
  rcases List.mem_cons.mp among with rfl | others
  · rcases of_mem_names_pathTerms taken with ⟨rfl, declared⟩ | others
    · exact Or.inl (path.mpr declared)
    · exact Or.inr others
  · rcases List.mem_cons.mp others with rfl | optional
    · cases taken
    · obtain ⟨p, isParameter, rfl⟩ := List.mem_map.mp optional
      rw [List.mem_singleton.mp taken]
      exact Or.inl (List.mem_map_of_mem (List.mem_of_mem_filter isParameter))

end Client

end ClientGen
