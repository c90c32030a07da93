import Schemata.Handle
import Schemata.TypeRef
import Schemata.Value

/-!
# Configuration values

Fields, arguments and directives are declared by loosely typed values: plain data, references to
types, functions of the host, and fields and arguments that are ready. A record of such values is a
descriptor.

The field that a record describes keeps that record, and a value may carry a ready field, so the two
types are defined together: the content of a field is generic in the values its record holds.

## Main definitions

* `Schemata.Argument`: an argument of a field or a directive, or a field of an input object.
* `Schemata.Config`: configuration values; `Schemata.Record`: records of them.
* `Schemata.FieldSpec`: the content of a field; `Schemata.Field`: a field, which has an identity.
* `Schemata.Config.ofValue`, `Schemata.Config.toValue?`: plain data into configuration and back.
-/

namespace Schemata

/-- A named input, with the reference to its type if its declaration has one. -/
structure Argument where
  name : String
  typeRef : Option TypeRef
  defaultValue : Option Value
  description : Option String
  deprecationReason : Option String

/-- How the value of a field is found: by the executor's own rule, for all parents at once, or
parent by parent. -/
inductive Resolution where
  | standard
  | batched (mapper : Handle)
  | perItem (resolver : Handle)
  deriving DecidableEq, Repr

/-- The content of a field whose record holds values of type `C`. -/
structure FieldSpecOf (C : Type) where
  name : String
  arguments : List Argument
  typeRef : Option TypeRef
  resolution : Resolution
  estimator : Option Handle
  description : Option String
  deprecationReason : Option String
  /-- The record that the field was made from. -/
  source : List (String × C)

/-- A field whose record holds values of type `C`. Fields of one content may be different fields:
their identities differ. -/
structure FieldOf (C : Type) extends FieldSpecOf C where
  id : Nat

/-- A configuration value. The entries of a record stand in insertion order. -/
inductive Config where
  | argument (argument : Argument)
  | bool (b : Bool)
  | callable (callable : Callable)
  | field (field : FieldOf Config)
  | float (x : Float)
  | int (n : Int64)
  | list (items : List Config)
  | null
  | record (entries : List (String × Config))
  | string (s : String)
  | type (ref : TypeRef)
  deriving Inhabited

/-- A record that describes a field, an argument or a directive. -/
abbrev Record := Entries Config

/-- The content of a field. -/
abbrev FieldSpec := FieldSpecOf Config

/-- A field of an object or an interface. -/
abbrev Field := FieldOf Config

namespace Argument

/-- A deprecated argument says why. -/
def isDeprecated (a : Argument) : Bool :=
  a.deprecationReason.isSome

/-- An argument of a type, with nothing else said about it. -/
def ofType (name : String) (ref : TypeRef) : Argument :=
  { name, typeRef := some ref, defaultValue := none, description := none,
    deprecationReason := none }

end Argument

namespace FieldSpecOf

variable {C : Type}

/-- A deprecated field says why. -/
def isDeprecated (f : FieldSpecOf C) : Bool :=
  f.deprecationReason.isSome

/-- The first argument of that name. -/
def argument? (f : FieldSpecOf C) (name : String) : Option Argument :=
  f.arguments.find? (·.name == name)

/-- The function that resolves the field parent by parent. -/
def resolver? (f : FieldSpecOf C) : Option Handle :=
  match f.resolution with
  | .perItem resolver => some resolver
  | _ => none

/-- The function that resolves the field for all parents at once. -/
def mapper? (f : FieldSpecOf C) : Option Handle :=
  match f.resolution with
  | .batched mapper => some mapper
  | _ => none

end FieldSpecOf

namespace Config

/-- The function, of a value that is one. -/
def asCallable? : Config → Option Callable
  | callable c => some c
  | _ => none

/-- The function, of a value that is a function of that kind. -/
def asCallableOf? (kind : CallableKind) : Config → Option Handle
  | callable c => if c.kind = kind then some c.handle else none
  | _ => none

/-- The record, of a value that is one. -/
def asRecord? : Config → Option Record
  | record entries => some entries
  | _ => none

/-- The text, of a value that is one. -/
def asString? : Config → Option String
  | string s => some s
  | _ => none

/-- The reference that the value stands for: a reference itself, or the name of a type. No type has
the empty name. -/
def asTypeRef? : Config → Option TypeRef
  | type ref => some ref
  | string s => if s.isEmpty then none else some (.named s)
  | _ => none

/-- Values that declare nothing when they stand for a whole field: `null`, `false`, any zero, the
empty text and the text `"0"`, and the empty list. The empty record declares a field. -/
def isVoid : Config → Bool
  | null => true
  | bool b => !b
  | int n => n == 0
  | float x => x == 0.0
  | string s => s.isEmpty || s == "0"
  | list items => items.isEmpty
  | argument _ | callable _ | field _ | record _ | type _ => false

/-- Lists and records, the two forms in which several arguments or locations may be given. -/
def isStructured : Config → Bool
  | list _ | record _ => true
  | _ => false

mutual

/-- Plain data as a configuration value. -/
def ofValue : Value → Config
  | .null => null
  | .bool b => bool b
  | .int n => int n
  | .float x => float x
  | .string s => string s
  | .list items => list (ofValueItems items)
  | .object entries => record (ofValueEntries entries)

/-- Plain items as configuration values. -/
def ofValueItems : List Value → List Config
  | [] => []
  | v :: vs => ofValue v :: ofValueItems vs

/-- Plain entries as entries of configuration values. -/
def ofValueEntries : List (String × Value) → List (String × Config)
  | [] => []
  | (name, v) :: vs => (name, ofValue v) :: ofValueEntries vs

end

mutual

/-- The plain data that the value is, if it is plain data throughout. -/
def toValue? : Config → Option Value
  | null => some .null
  | bool b => some (.bool b)
  | int n => some (.int n)
  | float x => some (.float x)
  | string s => some (.string s)
  | list items => (toValueItems? items).map .list
  | record entries => (toValueEntries? entries).map .object
  | argument _ | callable _ | field _ | type _ => none

/-- The plain data of all items, if each of them is plain. -/
def toValueItems? : List Config → Option (List Value)
  | [] => some []
  | c :: cs =>
    match c.toValue?, toValueItems? cs with
    | some v, some vs => some (v :: vs)
    | _, _ => none

/-- The plain data of all entries, if each of them is plain. -/
def toValueEntries? : List (String × Config) → Option (List (String × Value))
  | [] => some []
  | (name, c) :: cs =>
    match c.toValue?, toValueEntries? cs with
    | some v, some vs => some ((name, v) :: vs)
    | _, _ => none

end

end Config

namespace Record

/-- The text under a name, if a text is there. -/
def getString? (r : Record) (name : String) : Option String :=
  (Entries.get? r name).bind Config.asString?

/-- The reference under a name, if a value is there that stands for one. -/
def getTypeRef? (r : Record) (name : String) : Option TypeRef :=
  (Entries.get? r name).bind Config.asTypeRef?

/-- The function under a name, if a function of that kind is there. -/
def getCallable? (r : Record) (name : String) (kind : CallableKind) : Option Handle :=
  (Entries.get? r name).bind (Config.asCallableOf? kind)

end Record

end Schemata
