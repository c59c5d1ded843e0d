/-
# Document values

The values of a JSON document and of a configuration table: one type for both,
since a configuration value is kept as it was read.  Integers are unbounded,
floating point numbers are 64-bit, and the fields of an object stand in document
order, each name once.
-/
import ClientGen.Number.Shortest
import ClientGen.Ordered
import ClientGen.Source.Literal

namespace ClientGen

/-- A document value. -/
inductive Value
  | null
  | bool (value : Bool)
  | int (value : Int)
  | float (value : Double)
  | str (value : Text)
  | arr (items : List Value)
  | obj (fields : List (Text × Value))
  deriving Repr

/-- The fields of an object, in order. -/
abbrev Fields := List (Text × Value)

namespace Fields

/-- The value of a field, null where there is none. -/
def value (name : Text) (fields : Fields) : Value := (Ordered.get? name fields).getD .null

/-- The value of a field with two names, of which the first counts where both
occur. -/
def aliased (first second : Text) (fields : Fields) : Value :=
  if Ordered.has first fields then value first fields else value second fields

end Fields

namespace Value

/-- The fields of an object; any other value has none. -/
def objectFields : Value → Fields
  | .obj fields => fields
  | _ => []

/-- Whether the value counts as true: null, false, zero and what is empty do
not. -/
def isTruthy : Value → Bool
  | .null => false
  | .bool b => b
  | .int n => n != 0
  | .float x => ! x.isZero
  | .str t => ! t.isEmpty
  | .arr items => ! items.isEmpty
  | .obj fields => ! fields.isEmpty

/-- Whether the value is null. -/
def isNull : Value → Bool
  | .null => true
  | _ => false

/-- Whether the value is an object. -/
def isObject : Value → Bool
  | .obj _ => true
  | _ => false

/-- The Python name of the type of a value, as error texts give it. -/
def typeName : Value → Text
  | .null => "NoneType"
  | .bool _ => "bool"
  | .int _ => "int"
  | .float _ => "float"
  | .str _ => "str"
  | .arr _ => "list"
  | .obj _ => "dict"

mutual

/-- The value as a Python expression: a text is a string literal. -/
def expression : Value → Text
  | .null => "None"
  | .bool b => if b then "True" else "False"
  | .int n => Text.ofInt n
  | .float x => x.toText
  | .str t => Literal.encode t
  | .arr items => "[" ++ Text.joinWith ", " (itemExpressions items) ++ "]"
  | .obj fields => "\x7b" ++ Text.joinWith ", " (fieldExpressions fields) ++ "\x7d"

/-- The items of an array as expressions. -/
def itemExpressions : List Value → List Text
  | [] => []
  | item :: rest => item.expression :: itemExpressions rest

/-- The fields of an object as pairs of expressions. -/
def fieldExpressions : List (Text × Value) → List Text
  | [] => []
  | (name, value) :: rest =>
    (Literal.encode name ++ ": " ++ value.expression) :: fieldExpressions rest

end

/-- The value as text: a text stands for itself, any other value for its
expression. -/
def toText : Value → Text
  | .str t => t
  | value => value.expression

/-! ## Comparison -/

mutual

/-- Whether two values are the same: of the same kind and with the same content. -/
def same : Value → Value → Bool
  | .null, .null => true
  | .bool b, .bool b' => b = b'
  | .int n, .int n' => n = n'
  | .float x, .float x' => x = x'
  | .str t, .str t' => t = t'
  | .arr items, .arr items' => sameItems items items'
  | .obj fields, .obj fields' => sameFields fields fields'
  | _, _ => false

/-- Whether two arrays have the same items. -/
def sameItems : List Value → List Value → Bool
  | [], [] => true
  | item :: rest, item' :: rest' => same item item' && sameItems rest rest'
  | _, _ => false

/-- Whether two objects have the same fields in the same order. -/
def sameFields : List (Text × Value) → List (Text × Value) → Bool
  | [], [] => true
  | (name, value) :: rest, (name', value') :: rest' =>
    name = name' && same value value' && sameFields rest rest'
  | _, _ => false

end

mutual

theorem same_iff : (v w : Value) → (same v w = true ↔ v = w)
  | .null, w | .bool _, w | .int _, w | .float _, w | .str _, w => by cases w <;> simp [same]
  | .arr items, w => by cases w <;> simp [same, sameItems_iff items]
  | .obj fields, w => by cases w <;> simp [same, sameFields_iff fields]

theorem sameItems_iff : (l m : List Value) → (sameItems l m = true ↔ l = m)
  | [], m => by cases m <;> simp [sameItems]
  | v :: rest, m => by cases m <;> simp [sameItems, same_iff v, sameItems_iff rest]

theorem sameFields_iff : (l m : List (Text × Value)) → (sameFields l m = true ↔ l = m)
  | [], m => by cases m <;> simp [sameFields]
  | (name, v) :: rest, m => by
      cases m <;> simp [sameFields, same_iff v, sameFields_iff rest, Prod.ext_iff]

end

instance : DecidableEq Value := fun v w => decidable_of_iff _ (same_iff v w)

end Value

end ClientGen
