/-
# Tables under construction

A configuration text is a sequence of statements, each of which adds to the table
that the text denotes: a value under a name, a table, or one more table in an
array of tables.  No statement takes anything away, and a name is given its value
once.  A table that came into being only as part of a longer name may be opened
once by its own name.
-/
import ClientGen.Value.Basic

namespace ClientGen.Toml

/-- A statement of a configuration text; names are given by their parts. -/
inductive Statement
  | assign (name : List Text) (value : Value)
  | table (name : List Text)
  | tableItem (name : List Text)

/-- The table as far as it is known: its fields, the name of the table that is
open, and the last parts of the names that only longer names have brought in. -/
structure Draft where
  root : Fields := []
  current : List Text := []
  implied : List Text := []

/-- Gives a name its value; the tables that its first parts name are made where
they are missing. -/
def assign (value : Value) : List Text → Fields → Option Fields
  | [], _ => none
  | [name], fields => if Ordered.has name fields then none else some (Ordered.put name value fields)
  | name :: next :: rest, fields =>
    match Ordered.get? name fields with
    | none =>
      (assign value (next :: rest) []).map fun inner => Ordered.put name (.obj inner) fields
    | some (.obj inner) =>
      (assign value (next :: rest) inner).map fun inner => Ordered.put name (.obj inner) fields
    | some _ => none

/-- Changes a table, or the last one of an array of tables. -/
def changeIn (change : Fields → Option Fields) : Value → Option Value
  | .obj inner => (change inner).map .obj
  | .arr items =>
    match items.getLast? with
    | some (.obj inner) => (change inner).map fun inner => .arr (items.dropLast ++ [.obj inner])
    | _ => none
  | _ => none

/-- Changes the table of a given name. -/
def changeAt (change : Fields → Option Fields) : List Text → Fields → Option Fields
  | [], fields => change fields
  | name :: rest, fields =>
    match Ordered.get? name fields with
    | some value =>
      (changeIn (changeAt change rest) value).map fun value => Ordered.put name value fields
    | none => none

/-- The first parts of a name, each as a name of its own. -/
def ancestors (name : List Text) : List (List Text) :=
  (List.range (name.length - 1)).map fun n => name.take (n + 1)

/-- Whether there is something of a given name. -/
def names (fields : Fields) : List Text → Bool
  | [] => true
  | name :: rest =>
    match Ordered.get? name fields with
    | some (.obj inner) => names inner rest
    | some (.arr items) =>
      match items.getLast? with
      | some (.obj inner) => rest.isEmpty || names inner rest
      | _ => rest.isEmpty
    | some _ => rest.isEmpty
    | none => false

/-- Makes the table of a name, in which there is nothing of that name. -/
def addTable (value : Value) (name : List Text) (fields : Fields) : Option Fields :=
  match name.getLast? with
  | none => none
  | some last => changeAt (fun inner => some (Ordered.put last value inner)) name.dropLast fields

namespace Draft

/-- Makes the tables that the first parts of a name stand for, where they are
missing. -/
def addAncestors (draft : Draft) (name : List Text) : Option Draft :=
  (ancestors name).foldlM (fun draft ancestor =>
    if names draft.root ancestor then some draft
    else
      (addTable (.obj []) ancestor draft.root).map fun root =>
        { draft with root := root, implied := draft.implied ++ ancestor.getLast?.toList }) draft

/-- Opens the table of a name. -/
def openTable (draft : Draft) (name : List Text) : Option Draft := do
  let draft ← draft.addAncestors name
  let last ← name.getLast?
  if names draft.root name then
    if draft.implied.elem last then
      some { draft with current := name, implied := draft.implied.erase last }
    else none
  else
    let root ← addTable (.obj []) name draft.root
    some { draft with root := root, current := name }

/-- Opens one more table of the array of tables of a name. -/
def openItem (draft : Draft) (name : List Text) : Option Draft := do
  let draft ← draft.addAncestors name
  let last ← name.getLast?
  if names draft.root name then
    let more (inner : Fields) : Option Fields :=
      match Ordered.get? last inner with
      | some (.arr items) => some (Ordered.put last (.arr (items ++ [.obj []])) inner)
      | _ => none
    let root ← changeAt more name.dropLast draft.root
    some { draft with root := root, current := name }
  else
    let root ← addTable (.arr [.obj []]) name draft.root
    some { draft with root := root, current := name }

/-- Adds what a statement says. -/
def add (draft : Draft) : Statement → Option Draft
  | .assign name value =>
    (changeAt (assign value name) draft.current draft.root).map fun root =>
      { draft with root := root }
  | .table name => draft.openTable name
  | .tableItem name => draft.openItem name

end Draft

/-- The table that a sequence of statements denotes. -/
def tableOf (statements : List Statement) : Option Fields :=
  (statements.foldlM Draft.add {}).map Draft.root

end ClientGen.Toml
