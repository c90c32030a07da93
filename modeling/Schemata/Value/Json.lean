import Schemata.Json.Parser
import Schemata.Value

/-!
# Plain values as JSON

A value is written without any mark of its kind, and a document is read as the first kind of value
that accepts it: `null`, truth value, integer, float, text, list, object. The order matters for
numbers alone: an integer could be read as a float too.

## Main definitions

* `Schemata.Value.toJson`: the document of a value.
* `Schemata.Value.ofJson`: the value of a document.
* `Schemata.Value.parse?`: the value a text stands for.
-/

namespace Schemata.Value

mutual

/-- The document of a value. JSON has no number for NaN and the infinities: they are written as
`null`. -/
def toJson : Value → Json
  | null => .null
  | bool b => .bool b
  | int n => .integer n
  | float x => if x.isFinite then .float x else .null
  | string s => .string s
  | list items => .array (toJsonItems items)
  | object entries => .object (toJsonMembers entries)

/-- The documents of the items of a list. -/
def toJsonItems : List Value → List Json
  | [] => []
  | v :: vs => v.toJson :: toJsonItems vs

/-- The members for the entries of an object. -/
def toJsonMembers : List (String × Value) → List (String × Json)
  | [] => []
  | (name, v) :: vs => (name, v.toJson) :: toJsonMembers vs

end

/-- The first kind of value without parts that accepts the document. -/
def readPlain? (j : Json) : Option Value :=
  (j.asNull?.map fun _ => null)
    <|> j.asBool?.map bool
    <|> j.asInteger?.map int
    <|> j.asFloat?.map float
    <|> j.asString?.map string

mutual

/-- The value of a document. Of the members of one name the last counts, in the place of the
first. -/
def ofJson : Json → Value
  | .array items => list (ofJsonItems items)
  | .object members => object (Entries.ofList (ofJsonMembers members))
  | plain => (readPlain? plain).getD null

/-- The values of the items of an array. -/
def ofJsonItems : List Json → List Value
  | [] => []
  | j :: js => ofJson j :: ofJsonItems js

/-- The entries for the members of an object. -/
def ofJsonMembers : List (String × Json) → List (String × Value)
  | [] => []
  | (name, j) :: js => (name, ofJson j) :: ofJsonMembers js

end

/-- The value that a JSON text stands for. -/
def parse? (text : String) : Option Value :=
  (Json.parse? text).map ofJson

end Schemata.Value
