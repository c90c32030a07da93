import Schemata.Config.Keys
import Schemata.Config.Rendering
import Schemata.Violation

/-!
# The arguments that a configuration declares

The arguments of a field or a directive are declared together, as a record or as a list. An entry
may be a ready argument or a descriptor; in a record, whose keys name the arguments, it may also be
a type alone. In a list a descriptor has to bring its own name. A name of its own always wins over
the key.

Entries are read in order, and the first that declares no argument decides the violation.

## Main definitions

* `Schemata.Argument.ofRecord`: the argument that a descriptor describes.
* `Schemata.Argument.expand`: the arguments that a configuration declares.
-/

namespace Schemata.Argument

/-- The default value that a descriptor gives, if it gives one. It must be plain data; `null` is a
default value like any other. -/
def defaultOf (owner : ArgumentOwner) (name : String) (r : Record) :
    Except Violation (Option Value) :=
  match Entries.get? r Key.defaultValue with
  | none => .ok none
  | some value =>
    match value.toValue? with
    | some v => .ok (some v)
    | none => .error (.invalidArgumentDefaultValue name owner value.render)

/-- The argument that a descriptor describes, named by the descriptor or else by `defaultName`. -/
def ofRecord (owner : ArgumentOwner) (defaultName : String) (r : Record) :
    Except Violation Argument := do
  let name := (r.getString? Key.name).getD defaultName
  let defaultValue ← defaultOf owner name r
  return {
    name
    typeRef := r.getTypeRef? Key.type
    defaultValue
    description := r.getString? Key.description
    deprecationReason := r.getString? Key.deprecationReason }

/-- The argument that an entry of a record declares. -/
def ofNamedEntry (owner : ArgumentOwner) (name : String) (entry : Config) :
    Except Violation Argument :=
  match entry with
  | .argument a => .ok a
  | .record r => ofRecord owner name r
  | entry =>
    match entry.asTypeRef? with
    | some ref => .ok (ofType name ref)
    | none => .error (.invalidArgumentDeclaration name owner entry.render)

/-- The argument that an item of a list declares, at the given position. -/
def ofListedEntry (owner : ArgumentOwner) (position : Nat) (entry : Config) :
    Except Violation Argument :=
  match entry with
  | .argument a => .ok a
  | .record r =>
    if (Record.getString? r Key.name).isSome then ofRecord owner "" r
    else .error (.invalidArgumentDeclaration (toString position) owner entry.render)
  | entry => .error (.invalidArgumentDeclaration (toString position) owner entry.render)

/-- The arguments that a configuration declares, one for each of its entries and in their order. -/
def expand (owner : ArgumentOwner) (config : Config) : Except Violation (List Argument) :=
  match config with
  | .record entries => entries.mapM fun (name, entry) => ofNamedEntry owner name entry
  | .list items => items.zipIdx.mapM fun (entry, position) => ofListedEntry owner position entry
  | config => .error (.invalidArgumentsConfig owner config.render)

/-- The arguments that a descriptor declares under its key for them; none without the key. -/
def expandOption (owner : ArgumentOwner) (config : Option Config) :
    Except Violation (List Argument) :=
  match config with
  | some config => expand owner config
  | none => .ok []

end Schemata.Argument
