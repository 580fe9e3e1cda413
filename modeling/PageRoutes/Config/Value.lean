import PageRoutes.Text.Quoted
import PageRoutes.Number.Shortest
import PageRoutes.Number.Decimal
/-!
The values of a configuration document.

A document is a tree of nulls, truth values, numbers, texts, arrays and objects. A
number is an integer or a binary64 value, as `NumberValue` reads it. An object maps
each name to one value.
-/
namespace PageRoutes

/-- A value of a configuration document. -/
inductive ConfigValue where
  | null
  | bool (b : Bool)
  | int (n : Int)
  | float (x : Binary64)
  | str (s : String)
  | array (items : List ConfigValue)
  | object (fields : List (String × ConfigValue))
deriving Inhabited, Repr

namespace ConfigValue

/-- The value of a number. -/
def ofNumber : NumberValue → ConfigValue
  | .integer n => .int n
  | .float x => .float x

/-- How a found value is named in an error. -/
def describe : ConfigValue → String
  | .null => "null"
  | .bool b => "boolean \x60" ++ toString b ++ "\x60"
  | .int n => "integer \x60" ++ toString n ++ "\x60"
  | .float x => "floating point \x60" ++ x.toText ++ "\x60"
  | .str s => "string " ++ Text.quote s
  | .array _ => "sequence"
  | .object _ => "map"

/-- The value of a field of an object. -/
def field? (v : ConfigValue) (name : String) : Option ConfigValue :=
  match v with
  | .object fields => fields.lookup name
  | _ => none

/-- The fields of an object with one more: it replaces the value of a field of the same
name, and otherwise comes last. -/
def setField (fields : List (String × ConfigValue)) (name : String) (v : ConfigValue) :
    List (String × ConfigValue) :=
  if fields.any (·.1 == name) then fields.map fun f => if f.1 == name then (name, v) else f
  else fields ++ [(name, v)]

end ConfigValue

end PageRoutes
