/-
# Descriptions of code

Building blocks of code given as document values.  Every field but a name has a
value of its own, and fields of other names are ignored.
-/
import ClientGen.Code.Basic
import ClientGen.Value.Schema

namespace ClientGen.Code

open Schema

namespace TypeExpr

/-- A group of items with the wrapper that the fields name. -/
def groupOf (items : Checked (List TypeExpr)) (fields : Fields) : Checked TypeExpr :=
  ((items.within (.field "value")).both (withDefault "wrap_name" none (nullable asText) fields)).map
    fun (items, wrapper) => .group items wrapper

/-- An item read as a group: what is wrong with it as a group is wrong with it as
a text too, and both are reported. -/
def asItem (index : Nat) : Checked TypeExpr → Checked TypeExpr
  | .ok item => .ok item
  | .error issues =>
    let asGroup : Checked TypeExpr := Checked.within (.field "Variable") (.error issues)
    let asWord : Checked TypeExpr := Checked.within (.field "str") (.fail .notText)
    (Checked.within (.item index) (asGroup.both asWord)).map Prod.fst

mutual

/-- The items of the field `value`: a list of them, or one alone. -/
def readItemsField : Fields → Checked (List TypeExpr)
  | [] => .ok []
  | (key, v) :: rest =>
    if key = "value".toList then
      match v with
      | .arr items => readItems 0 items
      | .str t => .ok [.name t]
      | .obj fields => (asItem 0 (groupOf (readItemsField fields) fields)).map ([·])
      | _ => (asItem 0 (.fail .notARecord)).map ([·])
    else readItemsField rest

/-- Items, the first of which has the given index. -/
def readItems : Nat → List Value → Checked (List TypeExpr)
  | _, [] => .ok []
  | index, v :: rest =>
    ((readItem index v).both (readItems (index + 1) rest)).map fun (item, items) => item :: items

/-- An item of a group. -/
def readItem (index : Nat) : Value → Checked TypeExpr
  | .str t => .ok (.name t)
  | .obj fields => asItem index (groupOf (readItemsField fields) fields)
  | _ => asItem index (.fail .notARecord)

end

/-- A type expression: a group, given as a record. -/
def read : Value → Checked TypeExpr :=
  record fun fields => groupOf (readItemsField fields) fields

end TypeExpr

/-- A parameter. -/
def Parameter.ofFields (fields : Fields) : Checked Parameter :=
  (((required "name" asText fields).both
    (withDefault "default" none (nullable asText) fields)).both
    (withDefault "var_type" none (nullable TypeExpr.read) fields)).map
      fun ((own, standard), type) => ⟨own, standard, type⟩

/-- A block. -/
def Block.ofFields (fields : Fields) : Checked Block :=
  ((withDefault "order" 0 asInteger fields).both
    (withDefault "code" idleCode asText fields)).map
    fun (order, code) => ⟨order, code⟩

/-- A function. -/
def Function.ofFields (fields : Fields) : Checked Function :=
  ((required "name" asText fields).both
    ((withDefault "parameters" [] (listOf (record Parameter.ofFields)) fields).both
      ((withDefault "response" none (nullable asText) fields).both
        ((withDefault "async_def" false asBool fields).both
          ((withDefault "description" none (nullable asText) fields).both
            (withDefault "code" {} (record Block.ofFields) fields)))))).map
    fun (own, parameters, response, isAsync, description, code) =>
      ⟨own, parameters, response, isAsync, description, code⟩

/-- A class. -/
def Class.ofFields (fields : Fields) : Checked Class :=
  ((required "name" asText fields).both
    ((withDefault "functions" [] (tableOf (record Function.ofFields)) fields).both
      (withDefault "order" 0 asInteger fields))).map
    fun (own, functions, order) => ⟨own, functions, order⟩

/-- A file. -/
def File.ofFields (fields : Fields) : Checked File :=
  ((required "file_name" asText fields).both
    ((withDefault "header" [] (listOf asText) fields).both
      ((withDefault "imports" [] (listOf asText) fields).both
        ((withDefault "classes" [] (tableOf (record Class.ofFields)) fields).both
          (withDefault "code_blocks" [] (listOf (record Block.ofFields)) fields))))).map
    fun (own, header, imports, classes, blocks) => ⟨own, header, imports, classes, blocks⟩

end ClientGen.Code
