/-!
# Kinds of types

The kind of a type decides where the type may stand: input types where a value is given, output
types where one is returned.

## Main definitions

* `Schemata.TypeKind`: the kinds, with `isInput` and `isOutput`.
* `Schemata.TypeHead`: the kind and the name of a type, which is all that a reference to it keeps.
-/

namespace Schemata

/-- The kinds of types. Each builtin scalar is a kind of its own. -/
inductive TypeKind where
  | boolean
  | enum
  | float
  | id
  | inputObject
  | int
  | interface
  | object
  | scalar
  | string
  | union
  deriving DecidableEq, Repr

namespace TypeKind

/-- Types of this kind may be given as input. -/
def isInput : TypeKind → Bool
  | boolean | enum | float | id | inputObject | int | scalar | string => true
  | interface | object | union => false

/-- Types of this kind may be returned. -/
def isOutput : TypeKind → Bool
  | inputObject => false
  | _ => true

/-- The kind as messages name it. -/
def name : TypeKind → String
  | boolean => "Boolean"
  | enum => "Enum"
  | float => "Float"
  | id => "ID"
  | inputObject => "InputObject"
  | int => "Int"
  | interface => "Interface"
  | object => "Object"
  | scalar => "Scalar"
  | string => "String"
  | union => "Union"

/-- The kind as outlines name it: as messages do, but with a short word for truth values. -/
def tag : TypeKind → String
  | boolean => "Bool"
  | kind => kind.name

end TypeKind

/-- What a reference keeps of a type: its kind and its name. -/
structure TypeHead where
  kind : TypeKind
  name : String
  deriving DecidableEq, Repr

end Schemata
