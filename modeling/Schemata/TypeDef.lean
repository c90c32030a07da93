import Schemata.Field.Map

/-!
# Types

The types of a schema: the builtin scalars, and enums, input objects, interfaces, objects, scalars
and unions that are declared. An object or an interface declares its fields by a set, which is read
when its fields are first asked for; the outcome is kept for good, a violation included.

## Main definitions

* `Schemata.Composite`: what objects and interfaces have in common, with `fieldMap` and `field`.
* `Schemata.TypeDef`: the types.
* `Schemata.TypeDef.sameDefinition`: whether two types are defined alike.
-/

namespace Schemata

/-- The scalars that every schema has. -/
inductive BuiltinScalar where
  | boolean
  | float
  | id
  | int
  | string
  deriving DecidableEq, Repr

namespace BuiltinScalar

/-- All of them, in the order in which registries list them. -/
def all : List BuiltinScalar :=
  [boolean, float, id, int, string]

/-- Each builtin scalar is a kind of its own. -/
def kind : BuiltinScalar → TypeKind
  | boolean => .boolean
  | float => .float
  | id => .id
  | int => .int
  | string => .string

/-- A builtin scalar is named as its kind. -/
def name (b : BuiltinScalar) : String :=
  b.kind.name

end BuiltinScalar

/-- One value of an enum. -/
structure EnumValue where
  name : String
  description : Option String
  deprecationReason : Option String
  deriving DecidableEq, Repr

/-- A deprecated value says why. -/
def EnumValue.isDeprecated (v : EnumValue) : Bool :=
  v.deprecationReason.isSome

/-- A type with a finite number of values. -/
structure EnumType where
  name : String
  description : Option String
  values : Entries EnumValue

namespace EnumType

/-- The enum with the given values. Of two values of one name the later counts. -/
def ofValues (name : String) (description : Option String) (values : List EnumValue) : EnumType :=
  { name, description, values := Entries.ofList (values.map fun v => (v.name, v)) }

/-- Defined alike, whatever the order of the values. -/
def sameDefinition (a b : EnumType) : Bool :=
  a.name == b.name && a.description == b.description && a.values.length == b.values.length &&
    a.values.all fun (name, v) => b.values.get? name == some v

end EnumType

/-- A type of records given as input. Its fields are arguments of it. -/
structure InputObject where
  name : String
  description : Option String
  fields : Entries Argument

/-- The input object with the given fields. Of two fields of one name the later counts. -/
def InputObject.ofFields (name : String) (description : Option String) (fields : List Argument) :
    InputObject :=
  { name, description, fields := Entries.ofList (fields.map fun a => (a.name, a)) }

/-- A scalar that a schema declares. -/
structure ScalarType where
  name : String
  description : Option String
  deriving DecidableEq, Repr

/-- A type whose values are those of its members. -/
structure UnionType where
  name : String
  description : Option String
  /-- The names of the members, each once. -/
  members : List String

namespace UnionType

/-- The union with the given members. A member that is named again is not added again. -/
def ofMembers (name : String) (description : Option String) (members : List String) : UnionType :=
  { name, description, members := (Entries.ofList (members.map fun m => (m, ()))).keys }

/-- Defined alike, whatever the order of the members. -/
def sameDefinition (a b : UnionType) : Bool :=
  a.name == b.name && a.description == b.description && a.members.length == b.members.length &&
    a.members.all b.members.contains

end UnionType

/-- An object or an interface. -/
structure Composite where
  name : String
  description : Option String
  fieldSet : FieldSet
  /-- The outcome of reading the set, once it has been read. -/
  fields : Option (Except Violation FieldMap)

namespace Composite

variable {W : Type}

/-- An object or interface whose fields nobody has asked for. -/
def declare (name : String) (description : Option String) (fieldSet : FieldSet) : Composite :=
  { name, description, fieldSet, fields := none }

/-- The fields of the type, read if they have not been. Deferred fields are not forced. -/
def fieldMap (host : Host W) (c : Composite) :
    Run W (Except Violation FieldMap × Composite) :=
  match c.fields with
  | some outcome => return (outcome, c)
  | none => do
    let entries ← (c.fieldSet.read host c.name).run
    let outcome := entries.map FieldMap.ofEntries
    return (outcome, { c with fields := some outcome })

/-- Reads the fields of the type and does something with their map; the type keeps the map as it
is afterwards. -/
def withFields {α : Type} (host : Host W) (f : FieldMap → Run W (α × FieldMap))
    (c : Composite) : Run W (Except Violation α × Composite) := do
  match ← c.fieldMap host with
  | (.error violation, c) => return (.error violation, c)
  | (.ok map, c) =>
    let (a, map) ← f map
    return (.ok a, { c with fields := some (.ok map) })

/-- The field of a name, forced if it was deferred; none if the type has no such field. -/
def field (host : Host W) (name : String) (c : Composite) :
    Run W (Except Violation (Option Field) × Composite) := do
  let (outcome, c) ← c.withFields host (FieldMap.field host name)
  return (outcome.bind id, c)

end Composite

/-- A type of a schema. -/
inductive TypeDef where
  | builtin (scalar : BuiltinScalar)
  | enum (type : EnumType)
  | inputObject (type : InputObject)
  | interface (type : Composite)
  | object (type : Composite)
  | scalar (type : ScalarType)
  | union (type : UnionType)

namespace TypeDef

/-- The kind of a type. -/
def kind : TypeDef → TypeKind
  | builtin b => b.kind
  | enum _ => .enum
  | inputObject _ => .inputObject
  | interface _ => .interface
  | object _ => .object
  | scalar _ => .scalar
  | union _ => .union

/-- The name of a type. -/
def name : TypeDef → String
  | builtin b => b.name
  | enum t => t.name
  | inputObject t => t.name
  | interface t => t.name
  | object t => t.name
  | scalar t => t.name
  | union t => t.name

/-- The description of a type. Builtin scalars have none. -/
def description : TypeDef → Option String
  | builtin _ => none
  | enum t => t.description
  | inputObject t => t.description
  | interface t => t.description
  | object t => t.description
  | scalar t => t.description
  | union t => t.description

/-- What a reference keeps of the type. -/
def head (t : TypeDef) : TypeHead :=
  { kind := t.kind, name := t.name }

/-- The type is a builtin scalar. -/
def isBuiltin : TypeDef → Bool
  | builtin _ => true
  | _ => false

/-- The object or interface, of a type that is one. -/
def asComposite? : TypeDef → Option Composite
  | interface c => some c
  | object c => some c
  | _ => none

/-- The type with another object or interface in it; other types stay as they are. -/
def withComposite (c : Composite) : TypeDef → TypeDef
  | interface _ => interface c
  | object _ => object c
  | t => t

/-- Two enums, two unions or two declared scalars that are defined alike. -/
def sameDefinition : TypeDef → TypeDef → Bool
  | enum a, enum b => a.sameDefinition b
  | scalar a, scalar b => a == b
  | union a, union b => a.sameDefinition b
  | _, _ => false

end TypeDef

end Schemata
