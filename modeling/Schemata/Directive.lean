import Schemata.Argument.Checking
import Schemata.Argument.Expansion
import Schemata.Directive.Location

/-!
# Directives

A directive has a name, the locations at which it may be applied, and arguments. Without a name or
without a location a directive makes no sense, so a descriptor that gives none is refused at once;
its name and its arguments are checked later.

## Main definitions

* `Schemata.Directive`: directives.
* `Schemata.Directive.ofRecord`: the directive that a descriptor describes.
* `Schemata.Directive.check`: the check of a directive, up to its first violation.
-/

namespace Schemata

/-- A directive. -/
structure Directive where
  name : String
  description : Option String
  arguments : List Argument
  locations : List Location
  isRepeatable : Bool
  /-- The record that the directive was made from; builtin directives have an empty one. -/
  source : Record

namespace Directive

/-- The first argument of that name. -/
def argument? (d : Directive) (name : String) : Option Argument :=
  d.arguments.find? (·.name == name)

/-- The name that a descriptor gives. -/
def nameOf (r : Record) : Except Violation String :=
  match r.getString? Key.name with
  | some name => .ok name
  | none => .error (.missingDirectiveName (Config.renderOption (Entries.get? r Key.name)))

/-- The values that a descriptor gives for locations, of which there must be one. The keys of a
record mean nothing here. -/
def locationValues (name : String) (r : Record) : Except Violation (List Config) :=
  match Entries.get? r Key.locations with
  | none => .error (.missingDirectiveLocations name)
  | some (.list []) | some (.record []) => .error (.emptyDirectiveLocations name)
  | some (.list items) => .ok items
  | some (.record entries) => .ok (Entries.items entries)
  | some other => .error (.invalidDirectiveLocations name other.render)

/-- The location that a value names. -/
def locationOf (name : String) (value : Config) : Except Violation Location :=
  match value.asString?.bind Location.parse? with
  | some location => .ok location
  | none => .error (.unknownDirectiveLocation name value.render)

/-- The directive that a descriptor describes: its name is looked at first, then its locations, then
its arguments. Only the value `true` makes it repeatable. -/
def ofRecord (r : Record) : Except Violation Directive := do
  let name ← nameOf r
  let locations ← (← locationValues name r).mapM (locationOf name)
  let arguments ← Argument.expandOption (.directive name) (Entries.get? r Key.args)
  return {
    name
    description := r.getString? Key.description
    arguments
    locations
    isRepeatable :=
      match Entries.get? r Key.isRepeatable with
      | some (.bool true) => true
      | _ => false
    source := r }

/-- Checks a directive: its name, then its arguments. -/
def check {W : Type} (host : Host W) (types : TypeLookup) (d : Directive) :
    Attempt W Violation Unit := do
  Attempt.mapError (.invalidDirectiveName d.name) (Attempt.ofExcept (Name.validate d.name))
  Argument.checkAll host types (.directive d.name) d.arguments

end Directive

end Schemata
