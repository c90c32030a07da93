import Schemata.Field.Spec
import Schemata.Store

/-!
# Declarations of fields

A field is declared by a configuration value under a name or at a position. By its shape the value
is a descriptor, a ready field, a function that will produce the declaration, or a bare type, which
is short for the descriptor with that type. A declaration that knows its name becomes an entry of a
field map: a field, or a field that is deferred.

## Main definitions

* `Schemata.FieldKey`: what a field is declared under.
* `Schemata.Declaration`: the shapes, with `Schemata.Declaration.classify`.
* `Schemata.FieldEntry`: entries of field maps, with `Schemata.Declaration.toEntry`.
-/

namespace Schemata

/-- What a field is declared under. -/
inductive FieldKey where
  | name (name : String)
  | position (index : Nat)
  deriving DecidableEq, Repr

namespace FieldKey

/-- The key in words. -/
def text : FieldKey → String
  | name n => n
  | position i => toString i

/-- The outline of a key. -/
def outline : FieldKey → Outline
  | name n => .apply "Name" [.text n]
  | position i => .apply "Position" [.word (toString i)]

/-- Values under the positions at which they are listed. -/
def ofList {α : Type} (items : List α) : List (FieldKey × α) :=
  items.zipIdx.map fun (item, index) => (position index, item)

/-- Values under their names. -/
def ofEntries {α : Type} (entries : Entries α) : List (FieldKey × α) :=
  entries.map fun (key, item) => (name key, item)

end FieldKey

/-- A field that the host will declare, on the type named `parent`. -/
structure DeferredField where
  name : String
  parent : String
  producer : Handle
  deriving DecidableEq, Repr

/-- An entry of a field map. -/
inductive FieldEntry where
  | defined (field : Field)
  | deferred (field : DeferredField)

/-- The name of the field of an entry. -/
def FieldEntry.name : FieldEntry → String
  | defined field => field.name
  | deferred field => field.name

/-- The shapes in which a field is declared. -/
inductive Declaration where
  /-- A function that will produce the declaration. -/
  | deferred (name : String) (producer : Handle)
  /-- A descriptor in which the name of the field is set. -/
  | described (record : Record)
  /-- A field that is ready. -/
  | ready (field : Field)
  /-- A type under the name of the field. -/
  | shorthand (name : String) (type : Config)

namespace Declaration

/-- The descriptor with the name of the field set. A key that names the field sets it where the
descriptor has no text for a name. -/
def nameRecord (typeName : String) (key : FieldKey) (r : Record) : Except Violation Record :=
  match r.getString? Key.name, key with
  | some _, _ => .ok r
  | none, .name name => .ok (Entries.insert r Key.name (.string name))
  | none, .position index => .error (.missingFieldName typeName index)

/-- Refuses a descriptor whose arguments are neither a list nor a record. -/
def checkArgs (typeName : String) (r : Record) : Except Violation Unit :=
  match Entries.get? r Key.args with
  | none => .ok ()
  | some args =>
    if args.isStructured then .ok ()
    else .error (.invalidFieldArgs typeName ((r.getString? Key.name).getD "") args.render)

/-- The shape of a declaration on the type named `typeName`. Only under a name can a field be
declared by a function or by a type alone. -/
def classify (typeName : String) (key : FieldKey) (value : Config) :
    Except Violation Declaration :=
  match value, key with
  | .record r, key => do
    let named ← nameRecord typeName key r
    checkArgs typeName named
    return described named
  | .field f, _ => .ok (ready f)
  | .callable ⟨.producer, producer⟩, .name name => .ok (deferred name producer)
  | .callable ⟨.producer, _⟩, .position index =>
    .error (.deferredFieldRequiresName typeName index)
  | value, .name name =>
    if value.isVoid then .error (.invalidFieldDeclaration typeName name value.render)
    else .ok (shorthand name value)
  | value, key => .error (.invalidFieldDeclaration typeName key.text value.render)

/-- The descriptor that a bare type is short for. -/
def shorthandRecord (name : String) (type : Config) : Record :=
  [(Key.name, .string name), (Key.type, type)]

/-- The entry of a new field that a descriptor describes. -/
def entryOfRecord {W : Type} (typeName : String) (r : Record) : Attempt W Violation FieldEntry := do
  let spec ← Attempt.ofExcept (FieldSpec.ofRecord typeName r)
  return .defined (← Attempt.ofRun (Run.makeField spec))

/-- The entry that a declaration makes on the type named `typeName`. No function is called. -/
def toEntry {W : Type} (typeName : String) : Declaration → Attempt W Violation FieldEntry
  | deferred name producer => return .deferred { name, parent := typeName, producer }
  | ready f => return .defined f
  | described r => entryOfRecord typeName r
  | shorthand name type => entryOfRecord typeName (shorthandRecord name type)

end Declaration

/-- The entry that a configuration value declares under a key, on the type named `typeName`. -/
def FieldEntry.declare {W : Type} (typeName : String) (key : FieldKey) (value : Config) :
    Attempt W Violation FieldEntry := do
  (← Attempt.ofExcept (Declaration.classify typeName key value)).toEntry typeName

end Schemata
