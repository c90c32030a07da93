import Schemata.Entries

/-!
# JSON documents

A document as it is read: an integer of the 64-bit signed range stays an integer, any other number
is a float, and the members of an object stand in the order in which they were written, repeated
names included.

## Main definitions

* `Schemata.Json`: documents.
* `Schemata.Json.asInteger?`, `Schemata.Json.asFloat?` and the like: what a document can be read as.
-/

namespace Schemata

/-- A JSON document. -/
inductive Json where
  | null
  | bool (b : Bool)
  | integer (n : Int64)
  | float (x : Float)
  | string (s : String)
  | array (items : List Json)
  | object (members : List (String × Json))
  deriving Inhabited

namespace Json

/-- The document is `null`. -/
def asNull? : Json → Option Unit
  | null => some ()
  | _ => none

/-- The document is a truth value. -/
def asBool? : Json → Option Bool
  | bool b => some b
  | _ => none

/-- The document is an integer. -/
def asInteger? : Json → Option Int64
  | integer n => some n
  | _ => none

/-- The document is a number; an integer counts as the nearest float. -/
def asFloat? : Json → Option Float
  | integer n => some (Float.ofInt n.toInt)
  | float x => some x
  | _ => none

/-- The document is a text. -/
def asString? : Json → Option String
  | string s => some s
  | _ => none

end Json

end Schemata
