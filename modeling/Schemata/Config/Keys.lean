/-!
# Names with a meaning in a descriptor

The names under which the record of a field, an argument or a directive is read. An entry under any
other name is kept and has no effect.
-/

namespace Schemata.Key

/-- The arguments of a field or a directive. -/
def args : String := "args"

/-- The function that estimates the cost of a field. -/
def complexity : String := "complexity"

/-- The default value of an argument. -/
def defaultValue : String := "defaultValue"

/-- Why an element is deprecated. -/
def deprecationReason : String := "deprecationReason"

/-- The description of an element. -/
def description : String := "description"

/-- A flag that fields once had; it is refused in favour of a reason. -/
def isDeprecated : String := "isDeprecated"

/-- Whether a directive may be applied repeatedly. -/
def isRepeatable : String := "isRepeatable"

/-- Where a directive may be applied. -/
def locations : String := "locations"

/-- The function that resolves a field for all parents at once. -/
def map : String := "map"

/-- The name of an element. -/
def name : String := "name"

/-- The function that resolves a field parent by parent. -/
def resolve : String := "resolve"

/-- The type of a field or an argument. -/
def type : String := "type"

end Schemata.Key
