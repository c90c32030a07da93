/-!
# Locations of directives

A location is a place in a document or in a schema where a directive may be applied. Locations are
written in capitals, and only that spelling names them.

## Main definitions

* `Schemata.Location`: the locations; `Schemata.Location.all` lists them.
* `Schemata.Location.name`, `Schemata.Location.parse?`: the spelling of a location, and back.
* `Schemata.Location.isExecutable`: locations in documents that are executed.
-/

namespace Schemata

/-- A place where a directive may be applied. -/
inductive Location where
  | argumentDefinition
  | enum
  | enumValue
  | field
  | fieldDefinition
  | fragmentDefinition
  | fragmentSpread
  | inlineFragment
  | inputFieldDefinition
  | inputObject
  | interface
  | mutation
  | object
  | query
  | scalar
  | schema
  | subscription
  | union
  | variableDefinition
  deriving DecidableEq, Repr

/-- A text that names no location. -/
structure UnknownLocation where
  text : String
  deriving DecidableEq, Repr

/-- The failure in words. -/
def UnknownLocation.message (u : UnknownLocation) : String :=
  "`" ++ u.text ++ "` is not a known directive location"

namespace Location

/-- All locations, in the order of the alphabet. -/
def all : List Location :=
  [argumentDefinition, enum, enumValue, field, fieldDefinition, fragmentDefinition, fragmentSpread,
   inlineFragment, inputFieldDefinition, inputObject, interface, mutation, object, query, scalar,
   schema, subscription, union, variableDefinition]

/-- The location as schemas and messages write it. -/
def name : Location → String
  | argumentDefinition => "ARGUMENT_DEFINITION"
  | enum => "ENUM"
  | enumValue => "ENUM_VALUE"
  | field => "FIELD"
  | fieldDefinition => "FIELD_DEFINITION"
  | fragmentDefinition => "FRAGMENT_DEFINITION"
  | fragmentSpread => "FRAGMENT_SPREAD"
  | inlineFragment => "INLINE_FRAGMENT"
  | inputFieldDefinition => "INPUT_FIELD_DEFINITION"
  | inputObject => "INPUT_OBJECT"
  | interface => "INTERFACE"
  | mutation => "MUTATION"
  | object => "OBJECT"
  | query => "QUERY"
  | scalar => "SCALAR"
  | schema => "SCHEMA"
  | subscription => "SUBSCRIPTION"
  | union => "UNION"
  | variableDefinition => "VARIABLE_DEFINITION"

/-- The location as outlines tag it: the words of its name in capitalised form. -/
def tag (l : Location) : String :=
  String.join ((l.name.splitOn "_").map fun word => word.toLower.capitalize)

/-- The location that a text names. -/
def parse? (s : String) : Option Location :=
  all.find? (·.name == s)

/-- The location that a text names, or the text that names none. -/
def parse (s : String) : Except UnknownLocation Location :=
  match parse? s with
  | some location => .ok location
  | none => .error ⟨s⟩

/-- Locations in documents that are executed; all others are locations in a schema. -/
def isExecutable : Location → Bool
  | field | fragmentDefinition | fragmentSpread | inlineFragment | mutation | query | subscription
  | variableDefinition => true
  | _ => false

end Location

end Schemata
